import KotlinAudit.Proofs.Json.Lexing
import KotlinAudit.Proofs.Outcome

/-! What a written value is read as. Integers with too many digits are refused and numbers that are
not finite are lost; everything else comes back. -/
namespace KotlinAudit.Json

open Decimal (Front signText maxDigits maxDigits_lt_length_iff)

/-! ### Words -/

/-- The number that a word is read as. -/
def ofNumeral (word : List Char) : Except Fault Json :=
  if maxDigits < (integerDigits word).length then
    .error (.tooManyDigits (integerDigits word).length)
  else match Decimal.Numeral.read? word with
    | none => .error .malformed
    | some (.whole value) => .ok (.int value)
    | some (.fractional value) => .ok (.float value)

/-- No name of a value has a digit in it. -/
theorem ofWord_of_digit {word : List Char} {c : Char} (hmem : c ∈ word)
    (h : Text.isAsciiDigit c = true) : ofWord word = ofNumeral word := by
  have hname : ∀ name : String, (∀ d ∈ name.toList, Text.isAsciiDigit d = false) →
      String.ofList word ≠ name := by
    rintro name hall rfl
    rw [String.toList_ofList] at hall
    rw [hall c hmem] at h
    cases h
  unfold ofWord
  split
  · next heq => exact absurd heq (hname _ (forall_mem_of_all (by decide)))
  · next heq => exact absurd heq (hname _ (forall_mem_of_all (by decide)))
  · next heq => exact absurd heq (hname _ (forall_mem_of_all (by decide)))
  · next heq => exact absurd heq (hname _ (forall_mem_of_all (by decide)))
  · next heq => exact absurd heq (hname _ (forall_mem_of_all (by decide)))
  · next heq => exact absurd heq (hname _ (forall_mem_of_all (by decide)))
  · rfl

theorem ofWord_signText (negative : Bool) {front : List Char} (h : Front front) (rest : List Char) :
    ofWord (signText negative ++ (front ++ rest)) =
      ofNumeral (signText negative ++ (front ++ rest)) := by
  obtain ⟨c, others, rfl⟩ := List.exists_cons_of_ne_nil h.ne_nil
  exact ofWord_of_digit (c := c) (by simp) (h.digital c List.mem_cons_self)

theorem integerDigits_signText (negative : Bool) {front rest : List Char} (h : Front front)
    (hrest : Decimal.StopsDigits rest) : integerDigits (signText negative ++ (front ++ rest)) =
      if front.head? == some '0' || isFractional rest then [] else front := by
  have hmagnitude : (if (signText negative ++ (front ++ rest)).head? == some '-' then
      (signText negative ++ (front ++ rest)).drop 1 else signText negative ++ (front ++ rest)) =
        front ++ rest := by
    cases negative with
    | true => rfl
    | false =>
      obtain ⟨c, others, rfl⟩ := List.exists_cons_of_ne_nil h.ne_nil
      have hc : c ≠ '-' := by
        rintro rfl
        exact absurd (h.digital _ List.mem_cons_self) (by decide)
      have hhead : ((c :: others ++ rest).head? == some '-') = false := by
        rw [List.cons_append, List.head?_cons, beq_eq_false_iff_ne, ne_eq, Option.some.injEq]
        exact hc
      change (if ((c :: others ++ rest).head? == some '-') = true then _ else _) = _
      rw [hhead]
      rfl
  unfold integerDigits
  dsimp only
  rw [hmagnitude, Decimal.spanDigits_append h.digital hrest]

/-- A character that neither a number nor the name of a value has. -/
def Foreign (c : Char) : Prop :=
  Decimal.Foreign c ∧
    ∀ name ∈ ["null", "true", "false", "NaN", "Infinity", "-Infinity"], c ∉ name.toList

instance (c : Char) : Decidable (Foreign c) := inferInstanceAs (Decidable (_ ∧ _))

/-- A word with such a character stands for no value. -/
theorem ofWord_of_foreign {word : List Char} {c : Char} (hmem : c ∈ word) (hc : Foreign c)
    (value : Json) : ofWord word ≠ .ok value := by
  obtain ⟨hnumeral, hnames⟩ := hc
  have hname : ∀ name ∈ ["null", "true", "false", "NaN", "Infinity", "-Infinity"],
      String.ofList word ≠ name := by
    rintro name hlisted rfl
    exact hnames _ hlisted (by rwa [String.toList_ofList])
  simp only [List.forall_mem_cons] at hname
  obtain ⟨hnull, htrue, hfalse, hnan, hinfinity, hminus, -⟩ := hname
  intro h
  unfold ofWord at h
  split at h
  · contradiction
  · contradiction
  · contradiction
  · contradiction
  · contradiction
  · contradiction
  · dsimp only at h
    split at h
    · cases h
    · rw [Decimal.read?_of_foreign hmem hnumeral] at h
      cases h

theorem front_toString (n : Nat) : Front (toString n).toList := by
  refine ⟨Decimal.toString_toList_ne_nil n, Decimal.isAsciiDigit_toString n, ?_⟩
  rcases Nat.eq_zero_or_pos n with rfl | hpos
  · exact .inl rfl
  · exact .inr (Decimal.head?_toString hpos)

/-- An integer with so few digits that it is read. -/
def Brief (value : Int) : Prop := value.natAbs < 10 ^ maxDigits

instance (value : Int) : Decidable (Brief value) := Nat.decLt _ _

theorem brief_of_digit {value : Int} (h : value.natAbs < 10) : Brief value :=
  Nat.lt_of_lt_of_le h (Nat.le_self_pow (by decide) 10)


/-- An integer is read unless it has too many digits. -/
theorem ofWord_int (value : Int) : ofWord (toString value).toList =
    if Brief value then .ok (.int value)
    else .error (.tooManyDigits (toString value.natAbs).length) := by
  have hfront := front_toString value.natAbs
  have hstop : Decimal.StopsDigits [] := fun c hc => by cases hc
  have hdigits := integerDigits_signText (decide (value < 0)) hfront hstop
  have hread := Decimal.read?_whole (decide (value < 0)) hfront
  have hword := ofWord_signText (decide (value < 0)) hfront []
  rw [List.append_nil] at hdigits hword
  rw [Decimal.toList_toString_int, hword, ofNumeral, hread, hdigits, Decimal.natOfDigits_toString]
  have hvalue : (if decide (value < 0) = true then -(value.natAbs : Int) else value.natAbs) =
      value := by
    rcases Int.lt_or_le value 0 with hneg | hpos
    · rw [decide_eq_true hneg, if_pos rfl]
      omega
    · rw [decide_eq_false (by omega), if_neg (by decide)]
      omega
  dsimp only
  rw [hvalue]
  rcases Nat.eq_zero_or_pos value.natAbs with hzero | hpos
  · have hbrief : Brief value := by
      rw [Brief, hzero]
      exact Nat.pow_pos (by decide)
    rw [hzero, if_pos hbrief]
    rfl
  · have hhead : ((toString value.natAbs).toList.head? == some '0' || isFractional []) = false := by
      rw [Bool.or_eq_false_iff]
      exact ⟨beq_eq_false_iff_ne.2 (Decimal.head?_toString hpos), rfl⟩
    rw [hhead, if_neg Bool.false_ne_true, String.length_toList]
    by_cases hbrief : Brief value
    · rw [if_neg (fun hlong => (maxDigits_lt_length_iff _).1 hlong hbrief), if_pos hbrief]
    · rw [if_pos ((maxDigits_lt_length_iff _).2 hbrief), if_neg hbrief]

/-- A binary number with a fraction or an exponent has no digits of an integer. -/
theorem integerDigits_fractional {negative : Bool} {text : List Char} {digits : Nat} {unit : Int}
    (h : Decimal.FractionalText negative text digits unit) : integerDigits text = [] := by
  cases h with
  | @point front fraction rest exponent hfront hfraction hne hrest =>
    have hfractional : isFractional ('.' :: (fraction ++ rest)) = true := by
      obtain ⟨c, others, rfl⟩ := List.exists_cons_of_ne_nil hne
      exact hfraction c List.mem_cons_self
    rw [integerDigits_signText negative hfront (fun c hc => by cases hc; decide), hfractional,
      Bool.or_true, if_pos rfl]
  | @exponent front rest exponent hfront hrest =>
    have hfractional : isFractional ('e' :: rest) = true := by
      cases hrest with
      | @signed sign digits hsign hdigits hne =>
        obtain ⟨c, others, rfl⟩ := List.exists_cons_of_ne_nil hne
        have hc := hdigits c List.mem_cons_self
        rcases hsign with rfl | rfl
        · simp [isFractional, hc]
        · simp [isFractional, hc]
    rw [integerDigits_signText negative hfront (fun c hc => by cases hc; decide), hfractional,
      Bool.or_true, if_pos rfl]

theorem ofWord_null : ofWord "null".toList = .ok .null := by
  unfold ofWord
  rw [String.ofList_toList]
  rfl

theorem ofWord_bool (value : Bool) :
    ofWord (if value then "true" else "false").toList = .ok (.bool value) := by
  cases value
  · unfold ofWord
    rw [if_neg Bool.false_ne_true, String.ofList_toList]
    rfl
  · unfold ofWord
    rw [if_pos rfl, String.ofList_toList]
    rfl

/-- A finite number is read as it is, and any other one is missing. -/
theorem ofWord_writtenFloat {value : Decimal.Binary64} (h : value.Normal) :
    ofWord (writtenFloat value) = .ok (if value.isFinite then .float value else .null) := by
  cases value with
  | nan => exact ofWord_null
  | infinite negative => exact ofWord_null
  | finite negative mantissa exponent =>
    change ofWord (((Decimal.Binary64.finite negative mantissa exponent).toShortest
      .dataFile).toList) = .ok (.float _)
    obtain ⟨digits, unit, htext, hvalue⟩ :=
      Decimal.Binary64.toShortest_spec negative h
    have hword : ofWord ((Decimal.Binary64.finite negative mantissa exponent).toShortest
        .dataFile).toList = ofNumeral ((Decimal.Binary64.finite negative mantissa
          exponent).toShortest .dataFile).toList := by
      generalize ((Decimal.Binary64.finite negative mantissa exponent).toShortest
        .dataFile).toList = text at htext
      cases htext with
      | point hfront => exact ofWord_signText negative hfront _
      | exponent hfront => exact ofWord_signText negative hfront _
    rw [hword, ofNumeral, integerDigits_fractional htext, htext.read?_eq, hvalue]
    rfl

/-! ### Values -/

mutual

/-- What is read where a value has been written. -/
def reread : Json → Except Fault Json
  | .int value =>
    if Brief value then .ok (.int value)
    else .error (.tooManyDigits (toString value.natAbs).length)
  | .float value => .ok (if value.isFinite then .float value else .null)
  | .array items => (rereadItems items).map .array
  | .object fields => (rereadFields fields).map .object
  | .null => .ok .null
  | .bool value => .ok (.bool value)
  | .text value => .ok (.text value)

def rereadItems : List Json → Except Fault (List Json)
  | [] => .ok []
  | item :: rest => do
    let item ← reread item
    let rest ← rereadItems rest
    return item :: rest

def rereadFields : List (String × Json) → Except Fault (List (String × Json))
  | [] => .ok []
  | (key, value) :: rest => do
    let value ← reread value
    let rest ← rereadFields rest
    return (key, value) :: rest

end

mutual

/-- How many arrays and objects lie within each other. -/
def depth : Json → Nat
  | .array items => depthItems items + 1
  | .object fields => depthFields fields + 1
  | _ => 0

def depthItems : List Json → Nat
  | [] => 0
  | item :: rest => max (depth item) (depthItems rest)

def depthFields : List (String × Json) → Nat
  | [] => 0
  | (_, value) :: rest => max (depth value) (depthFields rest)

end

theorem depthItems_le {items : List Json} {bound : Nat} (h : ∀ item ∈ items, depth item ≤ bound) :
    depthItems items ≤ bound := by
  induction items with
  | nil => exact Nat.zero_le _
  | cons item rest ih =>
    rw [List.forall_mem_cons] at h
    rw [depthItems]
    exact max_le h.1 (ih h.2)

theorem depthFields_le {fields : List (String × Json)} {bound : Nat}
    (h : ∀ field ∈ fields, depth field.2 ≤ bound) : depthFields fields ≤ bound := by
  induction fields with
  | nil => exact Nat.zero_le _
  | cons field rest ih =>
    rw [List.forall_mem_cons] at h
    rw [depthFields]
    exact max_le h.1 (ih h.2)

theorem depth_texts (values : List String) : depth (.texts values) ≤ 1 := by
  rw [texts, depth, Nat.succ_le_succ_iff]
  refine depthItems_le fun item hitem => ?_
  obtain ⟨value, -, rfl⟩ := List.mem_map.1 hitem
  exact Nat.zero_le _

/-- Reads tokens from some progress on. -/
def advance (progress : Progress) (tokens : List Token) : Except Fault Progress :=
  tokens.foldlM (Progress.next .record) progress

theorem advance_cons (progress : Progress) (token : Token) (rest : List Token) :
    advance progress (token :: rest) = Progress.next .record progress token >>= (advance · rest) :=
  List.foldlM_cons

theorem advance_append (progress : Progress) (first second : List Token) :
    advance progress (first ++ second) = advance progress first >>= (advance · second) :=
  List.foldlM_append

/-- A token that begins a value. -/
def Token.Begins : Token → Prop
  | .word _ | .text _ | .beginArray | .beginObject => True
  | _ => False

theorem exists_tokens_eq_cons (json : Json) :
    ∃ token rest, tokens json = token :: rest ∧ token.Begins := by
  cases json <;> exact ⟨_, _, rfl, trivial⟩

theorem isFull_eq_false {stack : List Frame} (h : stack.length ≤ Dialect.record.maxDepth) :
    Progress.isFull .record stack = false := by
  rw [Progress.isFull, decide_eq_false (Nat.not_lt.2 h), Bool.and_false]

theorem next_itemOrEnd {stack : List Frame} (h : stack.length ≤ Dialect.record.maxDepth)
    {token : Token} (hbegins : token.Begins) :
    Progress.next .record ⟨stack, .itemOrEnd⟩ token =
      Progress.next .record ⟨stack, .value⟩ token := by
  have hfull := isFull_eq_false h
  cases token with
  | word | text | beginArray | beginObject =>
    simp only [Progress.next, hfull, Bool.false_eq_true, if_false]
  | endArray | endObject | colon | comma => exact absurd hbegins id

/-- The first item of an array is read like any other value. -/
theorem advance_itemOrEnd {stack : List Frame} (h : stack.length ≤ Dialect.record.maxDepth)
    (json : Json) (rest : List Token) : advance ⟨stack, .itemOrEnd⟩ (tokens json ++ rest) =
      advance ⟨stack, .value⟩ (tokens json ++ rest) := by
  obtain ⟨token, others, heq, hbegins⟩ := exists_tokens_eq_cons json
  rw [heq, List.cons_append, advance_cons, advance_cons, next_itemOrEnd h hbegins]

theorem next_word (stack : List Frame) (word : List Char) :
    Progress.next .record ⟨stack, .value⟩ (.word word) =
      (ofWord word).map (Progress.supply · stack) := rfl

theorem advance_word (stack : List Frame) (word : List Char) :
    advance ⟨stack, .value⟩ [.word word] = (ofWord word).map (Progress.supply · stack) := by
  rw [advance_cons, next_word]
  cases ofWord word <;> rfl

theorem map_ok {α β : Type} (f : α → β) (value : α) :
    (Except.ok value : Except Fault α).map f = .ok (f value) := rfl

theorem exists_itemTokens_eq {items : List Json} (h : items ≠ []) :
    ∃ item more, itemTokens items = tokens item ++ more := by
  obtain ⟨item, rest, rfl⟩ := List.exists_cons_of_ne_nil h
  cases rest <;> exact ⟨item, _, rfl⟩

theorem exists_fieldTokens_eq {fields : List (String × Json)} (h : fields ≠ []) :
    ∃ key more, fieldTokens fields = .text key :: more := by
  obtain ⟨⟨key, value⟩, rest, rfl⟩ := List.exists_cons_of_ne_nil h
  cases rest <;> exact ⟨key, _, rfl⟩

/-- The end of an array behind its items. -/
theorem advance_endArray (items : List Json) (stack : List Frame) :
    advance ⟨.array items :: stack, .more⟩ [.endArray] =
      .ok (Progress.supply (.array items.reverse) stack) := rfl

mutual

/-- A value is read from its tokens where its depth leaves room. -/
theorem advance_tokens : ∀ (json : Json) (stack : List Frame), Every Rounded json →
    stack.length + depth json ≤ Dialect.record.maxDepth →
    advance ⟨stack, .value⟩ (tokens json) = (reread json).map (Progress.supply · stack)
  | .null, stack, _, _ => by
    rw [tokens, advance_word, ofWord_null, reread]
  | .bool value, stack, _, _ => by
    rw [tokens, advance_word, ofWord_bool, reread]
  | .int value, stack, _, _ => by
    rw [tokens, advance_word, ofWord_int, reread]
  | .float value, stack, h, _ => by
    rw [tokens, advance_word, ofWord_writtenFloat h, reread]
  | .text value, stack, _, _ => rfl
  | .array items, stack, h, hdepth => by
    rw [tokens, advance_cons, reread]
    change advance ⟨.array [] :: stack, .itemOrEnd⟩ (itemTokens items) = _
    rcases Decidable.em (items = []) with rfl | hne
    · rfl
    have hitems := advance_itemTokens items [] stack h hne (by
      rw [depth] at hdepth
      omega)
    obtain ⟨item, more, hmore⟩ := exists_itemTokens_eq hne
    rw [hmore, advance_itemOrEnd (by rw [depth] at hdepth; rw [List.length_cons]; omega), ← hmore,
      hitems]
    cases rereadItems items <;> rfl
  | .object fields, stack, h, hdepth => by
    rw [tokens, advance_cons, reread]
    change advance ⟨.object [] "" :: stack, .keyOrEnd⟩ (fieldTokens fields) = _
    rcases Decidable.em (fields = []) with rfl | hne
    · rfl
    have hfields := advance_fieldTokens fields [] "" stack h hne (by
        rw [depth] at hdepth
        omega)
    obtain ⟨key, more, hmore⟩ := exists_fieldTokens_eq hne
    have hfull := isFull_eq_false (show (Frame.object [] "" :: stack).length ≤ Dialect.record.maxDepth by
      rw [depth] at hdepth
      rw [List.length_cons]
      omega)
    have hfirst : Progress.next .record ⟨.object [] "" :: stack, .keyOrEnd⟩ (.text key) =
        Progress.next .record ⟨.object [] "" :: stack, .key⟩ (.text key) := by
      simp only [Progress.next, hfull, Bool.false_eq_true, if_false]
    rw [hmore, advance_cons, hfirst, ← advance_cons, ← hmore, hfields]
    cases rereadFields fields <;> rfl

theorem advance_itemTokens : ∀ (items before : List Json) (stack : List Frame),
    EveryItem Rounded items → items ≠ [] → stack.length + depthItems items < Dialect.record.maxDepth →
    advance ⟨.array before :: stack, .value⟩ (itemTokens items) =
      (rereadItems items).map fun items =>
        Progress.supply (.array (before.reverse ++ items)) stack
  | [], _, _, _, hne, _ => absurd rfl hne
  | [item], before, stack, h, _, hdepth => by
    have hitem := advance_tokens item (.array before :: stack) h.1 (by
      rw [depthItems, depthItems] at hdepth
      rw [List.length_cons]
      omega)
    rw [itemTokens, advance_append, hitem, rereadItems, rereadItems]
    cases reread item with
    | error fault => rfl
    | ok value =>
      rw [map_ok]
      change advance ⟨.array (value :: before) :: stack, .more⟩ [.endArray] = _
      rw [advance_endArray, List.reverse_cons]
      rfl
  | item :: next :: rest, before, stack, h, _, hdepth => by
    have hitem := advance_tokens item (.array before :: stack) h.1 (by
      rw [depthItems] at hdepth
      rw [List.length_cons]
      omega)
    have hrest : ∀ value : Json, _ := fun value =>
      advance_itemTokens (next :: rest) (value :: before) stack h.2
        (List.cons_ne_nil _ _) (by rw [depthItems] at hdepth; omega)
    have htokens : itemTokens (item :: next :: rest) =
      tokens item ++ .comma :: itemTokens (next :: rest) := rfl
    rw [htokens, advance_append, hitem, rereadItems]
    cases reread item with
    | error fault => rfl
    | ok value =>
      rw [map_ok]
      change advance ⟨.array (value :: before) :: stack, .value⟩ (itemTokens (next :: rest)) = _
      rw [hrest, List.reverse_cons]
      change _ = (rereadItems (next :: rest) >>= fun rest => .ok (value :: rest)).map _
      cases rereadItems (next :: rest) with
      | error fault => rfl
      | ok items =>
        rw [map_ok, List.append_assoc, List.singleton_append]
        rfl

theorem advance_fieldTokens : ∀ (fields before : List (String × Json)) (last : String)
    (stack : List Frame), EveryField Rounded fields → fields ≠ [] →
    stack.length + depthFields fields < Dialect.record.maxDepth →
    advance ⟨.object before last :: stack, .key⟩ (fieldTokens fields) =
      (rereadFields fields).map fun fields =>
        Progress.supply (.object (before.reverse ++ fields)) stack
  | [], _, _, _, _, hne, _ => absurd rfl hne
  | [(key, value)], before, last, stack, h, _, hdepth => by
    have hvalue := advance_tokens value (.object before key :: stack) h.2.1 (by
      rw [depthFields, depthFields] at hdepth
      rw [List.length_cons]
      omega)
    rw [fieldTokens]
    change advance ⟨.object before key :: stack, .value⟩ (tokens value ++ [.endObject]) = _
    rw [advance_append, hvalue, rereadFields, rereadFields]
    cases reread value with
    | error fault => rfl
    | ok value =>
      rw [map_ok]
      change Except.ok (Progress.supply (.object ((key, value) :: before).reverse) stack) = _
      rw [List.reverse_cons]
      rfl
  | (key, value) :: next :: rest, before, last, stack, h, _, hdepth => by
    have hvalue := advance_tokens value (.object before key :: stack) h.2.1 (by
      rw [depthFields] at hdepth
      rw [List.length_cons]
      omega)
    have hrest : ∀ value : Json, _ := fun value =>
      advance_fieldTokens (next :: rest) ((key, value) :: before) key stack h.2.2
        (List.cons_ne_nil _ _) (by rw [depthFields] at hdepth; omega)
    have htokens : fieldTokens ((key, value) :: next :: rest) =
      .text key :: .colon :: (tokens value ++ .comma :: fieldTokens (next :: rest)) := rfl
    rw [htokens]
    change advance ⟨.object before key :: stack, .value⟩
      (tokens value ++ .comma :: fieldTokens (next :: rest)) = _
    rw [advance_append, hvalue, rereadFields]
    cases reread value with
    | error fault => rfl
    | ok value =>
      rw [map_ok]
      change advance ⟨.object ((key, value) :: before) key :: stack, .key⟩
        (fieldTokens (next :: rest)) = _
      rw [hrest, List.reverse_cons]
      change _ = (rereadFields (next :: rest) >>= fun rest => .ok ((key, value) :: rest)).map _
      cases rereadFields (next :: rest) with
      | error fault => rfl
      | ok fields =>
        rw [map_ok, List.append_assoc, List.singleton_append]
        rfl

end

/-- A text with the tokens of a value is read as the value is reread. -/
theorem read_of_lexes {json : Json} {text : List Char} (h : Every Rounded json)
    (hdepth : depth json ≤ Dialect.record.maxDepth)
    (htext : Lexes .record text (tokens json)) : read .record text = reread json := by
  have hlexes := htext ⟨[], .value⟩ []
  rw [List.append_nil] at hlexes
  have hadvance := advance_tokens json [] h (by rw [List.length_nil]; omega)
  unfold read
  change (feed .record (⟨[], .value⟩, .between) text >>= _) = _
  rw [hlexes]
  change ((advance ⟨[], .value⟩ (tokens json) >>= _) >>= _) = _
  rw [hadvance]
  cases reread json <;> rfl

/-- An object on one line is read as it is reread. -/
theorem read_compact {fields : List (String × Json)} (h : EveryField Rounded fields)
    (hdepth : depth (.object fields) ≤ Dialect.record.maxDepth) :
    read .record (compact (.object fields)) = reread (.object fields) :=
  read_of_lexes h hdepth ((Lexes.mark (c := '\x7b') rfl).append (lexes_compactFields h))

/-- An object with fields on lines of their own is read as it is reread. -/
theorem read_indented {fields : List (String × Json)} (h : EveryField Rounded fields)
    (hdepth : depth (.object fields) ≤ Dialect.record.maxDepth) :
    read .record (indented 0 (.object fields)) = reread (.object fields) := by
  refine read_of_lexes h hdepth ?_
  cases fields with
  | nil => exact (Lexes.mark (c := '\x7b') rfl).append (.mark rfl)
  | cons field rest => exact (Lexes.mark (c := '\x7b') rfl).append (lexes_indentedFields 1 h)

/-! ### Values that come back -/

/-- An integer is short enough to be read, and a binary number is finite. -/
def Legible : Json → Prop
  | .int value => Brief value
  | .float value => value.isFinite = true
  | _ => True

/-- A binary number is finite. -/
def Finite : Json → Prop
  | .float value => value.isFinite = true
  | _ => True

mutual

theorem reread_of_legible : ∀ {json : Json}, Every Legible json → reread json = .ok json
  | .null, _ => rfl
  | .bool _, _ => rfl
  | .text _, _ => rfl
  | .int value, h => by
    have hbrief : Brief value := h
    rw [reread, if_pos hbrief]
  | .float value, h => by
    have hfinite : value.isFinite = true := h
    rw [reread, if_pos hfinite]
  | .array items, h => by rw [reread, rereadItems_of_legible h, map_ok]
  | .object fields, h => by rw [reread, rereadFields_of_legible h, map_ok]

theorem rereadItems_of_legible : ∀ {items : List Json}, EveryItem Legible items →
    rereadItems items = .ok items
  | [], _ => rfl
  | item :: rest, h => by
    rw [rereadItems, reread_of_legible h.1, rereadItems_of_legible h.2]
    rfl

theorem rereadFields_of_legible : ∀ {fields : List (String × Json)}, EveryField Legible fields →
    rereadFields fields = .ok fields
  | [], _ => rfl
  | (key, value) :: rest, h => by
    rw [rereadFields, reread_of_legible h.2.1, rereadFields_of_legible h.2.2]
    rfl

end

theorem reread_object_eq_ok {fields : List (String × Json)} {found : Json}
    (h : reread (.object fields) = .ok found) :
    ∃ others, rereadFields fields = .ok others ∧ found = .object others := by
  rw [reread] at h
  obtain ⟨others, hothers, rfl⟩ := Outcome.map_eq_ok.1 h
  exact ⟨others, hothers, rfl⟩

theorem rereadItems_cons_eq_ok {item : Json} {rest found : List Json}
    (h : rereadItems (item :: rest) = .ok found) :
    ∃ first others, reread item = .ok first ∧ rereadItems rest = .ok others ∧
      found = first :: others := by
  rw [rereadItems] at h
  obtain ⟨first, hfirst, h⟩ := Outcome.bind_eq_ok.1 h
  obtain ⟨others, hothers, h⟩ := Outcome.bind_eq_ok.1 h
  cases h
  exact ⟨first, others, hfirst, hothers, rfl⟩

theorem rereadFields_cons_eq_ok {key : String} {value : Json} {rest found : List (String × Json)}
    (h : rereadFields ((key, value) :: rest) = .ok found) :
    ∃ first others, reread value = .ok first ∧ rereadFields rest = .ok others ∧
      found = (key, first) :: others := by
  rw [rereadFields] at h
  obtain ⟨first, hfirst, h⟩ := Outcome.bind_eq_ok.1 h
  obtain ⟨others, hothers, h⟩ := Outcome.bind_eq_ok.1 h
  cases h
  exact ⟨first, others, hfirst, hothers, rfl⟩

mutual

/-- Where all binary numbers are finite, only what comes back as it is can be read. -/
theorem legible_of_reread : ∀ json : Json, Every Finite json →
    ∀ found, reread json = .ok found → Every Legible json
  | .null => fun _ _ _ => trivial
  | .bool _ => fun _ _ _ => trivial
  | .text _ => fun _ _ _ => trivial
  | .int value => fun _ found h => by
    by_cases hbrief : Brief value
    · exact hbrief
    · rw [reread, if_neg hbrief] at h
      cases h
  | .float _ => fun hfinite _ _ => hfinite
  | .array items => fun hfinite found h => by
    rw [reread] at h
    obtain ⟨others, hothers, -⟩ := Outcome.map_eq_ok.1 h
    exact legible_of_rereadItems items hfinite others hothers
  | .object fields => fun hfinite found h => by
    obtain ⟨others, hothers, -⟩ := reread_object_eq_ok h
    exact legible_of_rereadFields fields hfinite others hothers

theorem legible_of_rereadItems : ∀ items : List Json, EveryItem Finite items →
    ∀ found, rereadItems items = .ok found → EveryItem Legible items
  | [] => fun _ _ _ => trivial
  | item :: rest => fun hfinite found h => by
    obtain ⟨first, others, hfirst, hothers, -⟩ := rereadItems_cons_eq_ok h
    exact ⟨legible_of_reread item hfinite.1 first hfirst,
      legible_of_rereadItems rest hfinite.2 others hothers⟩

theorem legible_of_rereadFields : ∀ fields : List (String × Json), EveryField Finite fields →
    ∀ found, rereadFields fields = .ok found → EveryField Legible fields
  | [] => fun _ _ _ => trivial
  | (_, value) :: rest => fun hfinite found h => by
    obtain ⟨first, others, hfirst, hothers, -⟩ := rereadFields_cons_eq_ok h
    exact ⟨trivial, legible_of_reread value hfinite.2.1 first hfirst,
      legible_of_rereadFields rest hfinite.2.2 others hothers⟩

end

end KotlinAudit.Json
