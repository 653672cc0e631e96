import KotlinAudit.Proofs.Json.Rereading

/-! What one token does to the progress of a reader. From this follow how deep the reader stands, when
it has begun, and which fields the objects lack that it puts together. -/
namespace KotlinAudit.Json

/-- Where a value may begin. -/
def Expected.AwaitsValue : Expected → Prop
  | value | itemOrEnd => True
  | _ => False

/-- What a token does where it is accepted. -/
inductive Advances : Progress → Token → Progress → Prop
  | word {stack : List Frame} {expected : Expected} {word : List Char} {value : Json}
    (awaits : expected.AwaitsValue) (valid : ofWord word = .ok value) :
    Advances ⟨stack, expected⟩ (.word word) (Progress.supply value stack)
  | text {stack : List Frame} {expected : Expected} (content : String)
    (awaits : expected.AwaitsValue) :
    Advances ⟨stack, expected⟩ (.text content) (Progress.supply (.text content) stack)
  | beginArray {stack : List Frame} {expected : Expected} (awaits : expected.AwaitsValue) :
    Advances ⟨stack, expected⟩ .beginArray ⟨.array [] :: stack, .itemOrEnd⟩
  | beginObject {stack : List Frame} {expected : Expected} (awaits : expected.AwaitsValue) :
    Advances ⟨stack, expected⟩ .beginObject ⟨.object [] "" :: stack, .keyOrEnd⟩
  | key (stack : List Frame) (expected : Expected) (fields : List (String × Json))
    (last key : String) :
    Advances ⟨.object fields last :: stack, expected⟩ (.text key) ⟨.object fields key :: stack, .colon⟩
  | colon (stack : List Frame) : Advances ⟨stack, .colon⟩ .colon ⟨stack, .value⟩
  | comma {frame : Frame} (stack : List Frame) {next : Expected}
    (going : next = .value ∨ next = .key) :
    Advances ⟨frame :: stack, .more⟩ .comma ⟨frame :: stack, next⟩
  | endArray (stack : List Frame) (expected : Expected) (items found : List Json) :
    Advances ⟨.array items :: stack, expected⟩ .endArray (Progress.supply (.array found) stack)
  | endObject (stack : List Frame) (expected : Expected) {fields found : List (String × Json)}
    (last : String) (kept : found ⊆ fields) :
    Advances ⟨.object fields last :: stack, expected⟩ .endObject
      (Progress.supply (.object found) stack)

theorem advances_of_value {stack : List Frame} {expected : Expected} {token : Token}
    {next : Progress} (hawaits : expected.AwaitsValue)
    (h : Progress.value .record stack token = .ok next) : Advances ⟨stack, expected⟩ token next := by
  cases token with
  | word word =>
    obtain ⟨value, hvalue, rfl⟩ := Outcome.map_eq_ok.1 h
    exact .word hawaits hvalue
  | text content =>
    cases h
    exact .text content hawaits
  | beginArray =>
    cases h
    exact .beginArray hawaits
  | beginObject =>
    cases h
    exact .beginObject hawaits
  | endArray | endObject | colon | comma => cases h

theorem advances_of_next {progress next : Progress} {token : Token}
    (h : Progress.next .record progress token = .ok next) : Advances progress token next := by
  obtain ⟨stack, expected⟩ := progress
  unfold Progress.next at h
  dsimp only at h
  split at h
  · cases h
    exact .endArray ..
  · split at h
    · cases h
    · exact advances_of_value trivial h
  · exact advances_of_value trivial h
  · cases h
    exact .endObject _ _ _ (List.nil_subset _)
  · split at h
    · cases h
    · cases h
      exact .key ..
  · cases h
    exact .key ..
  · cases h
    exact .colon _
  · cases h
    exact .comma _ (.inl rfl)
  · cases h
    exact .endArray ..
  · cases h
    exact .comma _ (.inr rfl)
  · cases h
    exact .endObject _ _ _ fun field hfield => List.mem_reverse.1 hfield
  · cases h

/-- What tokens do one after the other, as a fold of single steps. -/
theorem advance_cons_eq_ok {progress last : Progress} {token : Token} {rest : List Token}
    (h : advance progress (token :: rest) = .ok last) :
    ∃ next, Advances progress token next ∧ advance next rest = .ok last := by
  rw [advance_cons] at h
  obtain ⟨next, hnext, hrest⟩ := Outcome.bind_eq_ok.1 h
  exact ⟨next, advances_of_next hnext, hrest⟩

/-! ### Depth -/

/-- By how much a token changes the number of open arrays and objects. -/
def Token.shift : Token → Int
  | .beginArray | .beginObject => 1
  | .endArray | .endObject => -1
  | _ => 0

theorem length_supply (value : Json) (stack : List Frame) :
    (Progress.supply value stack).stack.length = stack.length := by
  cases stack with
  | nil => rfl
  | cons frame stack => cases frame <;> rfl

theorem Advances.length {progress next : Progress} {token : Token}
    (h : Advances progress token next) :
    (next.stack.length : Int) = progress.stack.length + token.shift := by
  cases h <;> simp [length_supply, Token.shift]

theorem length_of_advance {progress last : Progress} {tokens : List Token}
    (h : advance progress tokens = .ok last) :
    (last.stack.length : Int) = progress.stack.length + (tokens.map Token.shift).sum := by
  induction tokens generalizing progress with
  | nil =>
    cases h
    simp
  | cons token rest ih =>
    obtain ⟨next, hnext, hrest⟩ := advance_cons_eq_ok h
    rw [ih hrest, hnext.length, List.map_cons, List.sum_cons, Int.add_assoc]

mutual

/-- What a value opens it closes. -/
theorem sum_shift_tokens : ∀ json : Json, ((tokens json).map Token.shift).sum = 0
  | .null | .bool _ | .int _ | .float _ | .text _ => rfl
  | .array items => by
    rw [tokens, List.map_cons, List.sum_cons, sum_shift_itemTokens]
    rfl
  | .object fields => by
    rw [tokens, List.map_cons, List.sum_cons, sum_shift_fieldTokens]
    rfl

theorem sum_shift_itemTokens : ∀ items : List Json, ((itemTokens items).map Token.shift).sum = -1
  | [] => rfl
  | [item] => by
    rw [itemTokens, List.map_append, List.sum_append, sum_shift_tokens item]
    rfl
  | item :: next :: rest => by
    have htokens : itemTokens (item :: next :: rest) =
      tokens item ++ .comma :: itemTokens (next :: rest) := rfl
    rw [htokens, List.map_append, List.sum_append, sum_shift_tokens item, List.map_cons,
      List.sum_cons, sum_shift_itemTokens (next :: rest)]
    rfl

theorem sum_shift_fieldTokens : ∀ fields : List (String × Json),
    ((fieldTokens fields).map Token.shift).sum = -1
  | [] => rfl
  | [(key, value)] => by
    have htokens : fieldTokens [(key, value)] =
      .text key :: .colon :: (tokens value ++ [.endObject]) := rfl
    rw [htokens, List.map_cons, List.map_cons, List.sum_cons, List.sum_cons, List.map_append,
      List.sum_append, sum_shift_tokens value]
    rfl
  | (key, value) :: next :: rest => by
    have htokens : fieldTokens ((key, value) :: next :: rest) =
      .text key :: .colon :: (tokens value ++ .comma :: fieldTokens (next :: rest)) := rfl
    rw [htokens, List.map_cons, List.map_cons, List.sum_cons, List.sum_cons, List.map_append,
      List.sum_append, sum_shift_tokens value, List.map_cons, List.sum_cons,
      sum_shift_fieldTokens (next :: rest)]
    rfl

end

/-! ### Beginning and end -/

/-- Something has been read: it lies in an open array or object, or it is complete. -/
def Progress.Begun (progress : Progress) : Prop :=
  progress.stack ≠ [] ∨ ∃ result, progress.expected = .nothing result

/-- Nothing has been read. -/
def Progress.start : Progress := ⟨[], .value⟩

theorem begun_supply (value : Json) (stack : List Frame) : (Progress.supply value stack).Begun := by
  cases stack with
  | nil => exact .inr ⟨value, rfl⟩
  | cons frame stack => cases frame <;> exact .inl (List.cons_ne_nil _ _)

theorem Advances.begun {progress next : Progress} {token : Token} (h : Advances progress token next)
    (hprogress : progress = .start ∨ progress.Begun) : next.Begun := by
  cases h with
  | word | text | endArray | endObject => exact begun_supply _ _
  | beginArray | beginObject | key | comma => exact .inl (List.cons_ne_nil _ _)
  | colon stack =>
    rcases hprogress with hstart | hstack | ⟨result, hresult⟩
    · cases hstart
    · exact .inl hstack
    · cases hresult

theorem begun_of_advance {progress last : Progress} {tokens : List Token}
    (h : advance progress tokens = .ok last) (hprogress : progress = .start ∨ progress.Begun)
    (htokens : tokens ≠ [] ∨ progress.Begun) : last.Begun := by
  induction tokens generalizing progress with
  | nil =>
    cases h
    exact htokens.resolve_left (absurd rfl)
  | cons token rest ih =>
    obtain ⟨next, hnext, hrest⟩ := advance_cons_eq_ok h
    have hbegun := hnext.begun hprogress
    exact ih hrest (.inr hbegun) (.inr hbegun)

/-- Where a value is complete nothing is open. -/
theorem Advances.complete {progress next : Progress} {token : Token} {result : Json}
    (h : Advances progress token next) (hresult : next.expected = .nothing result) :
    next.stack = [] := by
  have hsupply : ∀ value stack, (Progress.supply value stack).expected = .nothing result →
      (Progress.supply value stack).stack = [] := by
    intro value stack hsupplied
    cases stack with
    | nil => rfl
    | cons frame stack => cases frame <;> cases hsupplied
  cases h with
  | word | text | endArray | endObject => exact hsupply _ _ hresult
  | beginArray | beginObject | key | colon => cases hresult
  | comma stack hnext => rcases hnext with rfl | rfl <;> cases hresult

theorem complete_of_advance {progress last : Progress} {tokens : List Token} {result : Json}
    (h : advance progress tokens = .ok last) (htokens : tokens ≠ [])
    (hresult : last.expected = .nothing result) : last.stack = [] := by
  induction tokens generalizing progress with
  | nil => exact absurd rfl htokens
  | cons token rest ih =>
    obtain ⟨next, hnext, hrest⟩ := advance_cons_eq_ok h
    cases rest with
    | nil =>
      cases hrest
      exact hnext.complete hresult
    | cons other rest => exact ih hrest (List.cons_ne_nil _ _)

/-! ### Fields that objects lack -/

/-- A value that is no object with a field of this name. -/
def Lacks (name : String) (json : Json) : Prop :=
  ∀ fields, json = .object fields → ∀ field ∈ fields, field.1 ≠ name

def Frame.Lacks (name : String) : Frame → Prop
  | .array _ => True
  | .object fields key => key ≠ name ∧ ∀ field ∈ fields, field.1 ≠ name

/-- No object that is open or complete has a field of this name. -/
structure Progress.Lacks (name : String) (progress : Progress) : Prop where
  stack : ∀ frame ∈ progress.stack, frame.Lacks name
  result : ∀ result, progress.expected = .nothing result → Json.Lacks name result

variable {name : String}

/-- A word stands for no object. -/
theorem ofWord_ne_object (word : List Char) (fields : List (String × Json)) :
    ofWord word ≠ .ok (.object fields) := by
  intro h
  unfold ofWord at h
  split at h
  iterate 6 cases h
  dsimp only at h
  split at h
  · cases h
  · split at h <;> cases h

theorem lacks_supply {value : Json} {stack : List Frame} (hvalue : Lacks name value)
    (hstack : ∀ frame ∈ stack, frame.Lacks name) : (Progress.supply value stack).Lacks name := by
  cases stack with
  | nil =>
    refine ⟨hstack, fun result hresult => ?_⟩
    cases hresult
    exact hvalue
  | cons frame stack =>
    obtain ⟨hframe, hrest⟩ := List.forall_mem_cons.1 hstack
    cases frame with
    | array items => exact ⟨List.forall_mem_cons.2 ⟨trivial, hrest⟩, nofun⟩
    | object fields key =>
      obtain ⟨hkey, hfields⟩ := hframe
      exact ⟨List.forall_mem_cons.2 ⟨⟨hkey, List.forall_mem_cons.2 ⟨hkey, hfields⟩⟩, hrest⟩, nofun⟩

/-- Where no text is the name, no object gets a field of this name. -/
theorem Progress.Lacks.advances {progress next : Progress} {token : Token}
    (h : progress.Lacks name) (hnext : Advances progress token next) (hname : name ≠ "")
    (htoken : token ≠ .text name) : next.Lacks name := by
  have hstack := h.stack
  cases hnext with
  | @word _ _ word value hawaits hvalid =>
    refine lacks_supply (fun fields hfields => ?_) hstack
    subst hfields
    exact absurd hvalid (ofWord_ne_object word fields)
  | text content => exact lacks_supply nofun hstack
  | beginArray => exact ⟨List.forall_mem_cons.2 ⟨trivial, hstack⟩, nofun⟩
  | beginObject => exact ⟨List.forall_mem_cons.2 ⟨⟨hname.symm, nofun⟩, hstack⟩, nofun⟩
  | key stack expected fields last key =>
    obtain ⟨⟨-, hfields⟩, hrest⟩ := List.forall_mem_cons.1 hstack
    have hkey : key ≠ name := by
      rintro rfl
      exact htoken rfl
    exact ⟨List.forall_mem_cons.2 ⟨⟨hkey, hfields⟩, hrest⟩, nofun⟩
  | colon => exact ⟨hstack, nofun⟩
  | comma stack hnext => exact ⟨hstack, by rcases hnext with rfl | rfl <;> nofun⟩
  | endArray => exact lacks_supply nofun (List.forall_mem_cons.1 hstack).2
  | endObject stack expected last hkept =>
    obtain ⟨⟨-, hfields⟩, hrest⟩ := List.forall_mem_cons.1 hstack
    refine lacks_supply (fun fields heq field hfield => ?_) hrest
    cases heq
    exact hfields field (hkept hfield)

end KotlinAudit.Json
