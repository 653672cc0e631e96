import KotlinAudit.Proofs.Json.Lexing
import KotlinAudit.Proofs.Text.Lines

/-! The characters of a written value. Those that are no printable basic characters come from its
texts, where control characters are written by their codes, or from its layout. Outside of its
texts there are printable basic characters only, so where the value breaks into lines it breaks inside a
text. -/
namespace KotlinAudit.Json

open Text (Free Unbroken isLineBreak isAsciiDigit)

/-- No printable basic character is marked. -/
def Rare (marks : Char → Bool) : Prop :=
  ∀ c : Char, 32 ≤ c.toNat → c.toNat < 127 → marks c = false

/-- A text has no marked character that is written as it is. -/
def Spared (marks : Char → Bool) : Json → Prop
  | .text value => ∀ c ∈ value.toList, 32 ≤ c.toNat → marks c = false
  | _ => True

instance (marks : Char → Bool) (text : String) : Decidable (Spared marks (.text text)) :=
  List.decidableBAll _ text.toList

variable {marks : Char → Bool}

theorem Rare.free (h : Rare marks) {text : List Char}
    (htext : ∀ c ∈ text, 32 ≤ c.toNat ∧ c.toNat < 127) : Free marks text :=
  fun c hc => h c (htext c hc).1 (htext c hc).2

theorem Rare.literal (h : Rare marks) {text : List Char}
    (htext : (text.all fun c => 32 ≤ c.toNat ∧ c.toNat < 127) = true) : Free marks text :=
  h.free (forall_mem_of_all htext)

theorem free_escapeChar (h : Rare marks) {c : Char} (hc : 32 ≤ c.toNat → marks c = false) :
    Free marks (escapeChar c) := by
  have hhex : ∀ n < 16, 32 ≤ (hexChar n).toNat ∧ (hexChar n).toNat < 127 := by decide
  unfold escapeChar
  split
  · exact h.literal (by decide)
  · exact h.literal (by decide)
  · exact h.literal (by decide)
  · exact h.literal (by decide)
  · exact h.literal (by decide)
  · exact h.literal (by decide)
  · exact h.literal (by decide)
  · split
    · refine h.free ?_
      simp only [List.forall_mem_cons]
      exact ⟨by decide, by decide, by decide, by decide, hhex _ (by omega), hhex _ (by omega), nofun⟩
    · exact .cons (hc (by omega)) .nil

theorem free_quoted (h : Rare marks) {text : String} (htext : Spared marks (.text text)) :
    Free marks (quoted text) := by
  have hquote : marks '"' = false := h _ (by decide) (by decide)
  refine .cons hquote (.append ?_ (.cons hquote .nil))
  intro c hc
  obtain ⟨d, hd, hescaped⟩ := List.mem_flatMap.1 hc
  exact free_escapeChar h (htext d hd) c hescaped

theorem toNat_of_isAsciiDigit {c : Char} (h : isAsciiDigit c = true) :
    32 ≤ c.toNat ∧ c.toNat < 127 := by
  have hrange : '0' ≤ c ∧ c ≤ '9' := by
    simpa only [isAsciiDigit, Bool.and_eq_true, decide_eq_true_eq] using h
  have hlow : 48 ≤ c.toNat := hrange.1
  have hhigh : c.toNat ≤ 57 := hrange.2
  omega

theorem free_int (h : Rare marks) (value : Int) : Free marks (toString value).toList := by
  refine h.free fun c hc => ?_
  rw [Decimal.toList_toString_int] at hc
  rcases List.mem_append.1 hc with hsign | hdigit
  · rw [Decimal.mem_signText hsign]
    decide
  · exact toNat_of_isAsciiDigit (Decimal.isAsciiDigit_toString _ c hdigit)

theorem free_null (h : Rare marks) : Free marks "null".toList := h.literal (by decide)

theorem free_writtenFloat (h : Rare marks) {value : Decimal.Binary64} (hvalue : value.Normal) :
    Free marks (writtenFloat value) := by
  cases value with
  | nan => exact free_null h
  | infinite negative => exact free_null h
  | finite negative mantissa exponent =>
    obtain ⟨digits, unit, htext, -⟩ := Decimal.Binary64.toShortest_spec negative hvalue
    refine h.free fun c hc => ?_
    rcases htext.mem hc with hdigit | hmark
    · exact toNat_of_isAsciiDigit hdigit
    · simp only [List.mem_cons, List.not_mem_nil, or_false] at hmark
      rcases hmark with rfl | rfl | rfl | rfl <;> decide

theorem free_bool (h : Rare marks) (value : Bool) :
    Free marks (if value then "true" else "false").toList := by
  cases value
  · exact h.literal (by decide)
  · exact h.literal (by decide)

theorem free_char (h : Rare marks) {c : Char} (hc : 32 ≤ c.toNat ∧ c.toNat < 127) :
    marks c = false :=
  h c hc.1 hc.2

theorem free_mark (h : Rare marks) {c : Char} (hc : 32 ≤ c.toNat ∧ c.toNat < 127) :
    Free marks [c] :=
  .cons (free_char h hc) .nil

mutual

theorem free_compact (h : Rare marks) : ∀ {json : Json}, Every Rounded json →
    Every (Spared marks) json → Free marks (compact json)
  | .null, _, _ => free_null h
  | .bool value, _, _ => free_bool h value
  | .int value, _, _ => free_int h value
  | .float _, hvalue, _ => free_writtenFloat h hvalue
  | .text _, _, htext => free_quoted h htext
  | .array _, hitems, hall => .cons (free_char h (by decide)) (free_compactItems h hitems hall)
  | .object _, hfields, hall => .cons (free_char h (by decide)) (free_compactFields h hfields hall)

theorem free_compactItems (h : Rare marks) : ∀ {items : List Json}, EveryItem Rounded items →
    EveryItem (Spared marks) items → Free marks (compactItems items)
  | [], _, _ => free_mark h (by decide)
  | [_], hitems, hall => (free_compact h hitems.1 hall.1).append (free_mark h (by decide))
  | _ :: _ :: _, hitems, hall => (free_compact h hitems.1 hall.1).append
      (.cons (free_char h (by decide)) (free_compactItems h hitems.2 hall.2))

theorem free_compactFields (h : Rare marks) : ∀ {fields : List (String × Json)},
    EveryField Rounded fields → EveryField (Spared marks) fields → Free marks (compactFields fields)
  | [], _, _ => free_mark h (by decide)
  | [(_, _)], hfields, hall =>
    ((free_quoted h hall.1).append (.cons (free_char h (by decide))
      (free_compact h hfields.2.1 hall.2.1))).append (free_mark h (by decide))
  | (_, _) :: _ :: _, hfields, hall =>
    ((free_quoted h hall.1).append (.cons (free_char h (by decide))
      (free_compact h hfields.2.1 hall.2.1))).append
        (.cons (free_char h (by decide)) (free_compactFields h hfields.2.2 hall.2.2))

end

theorem mem_escapeChar {c : Char} (h : 32 ≤ c.toNat) : c ∈ escapeChar c := by
  unfold escapeChar
  split
  · exact .tail _ (.head _)
  · exact .head _
  iterate 5 exact absurd h (by decide)
  rw [if_neg (Nat.not_lt.2 h)]
  exact List.mem_singleton_self _

theorem spared_of_free_quoted {text : String} (h : Free marks (quoted text)) :
    Spared marks (.text text) := by
  intro c hc hprintable
  refine h c (List.mem_cons_of_mem _ (List.mem_append_left _ ?_))
  exact List.mem_flatMap.2 ⟨c, hc, mem_escapeChar hprintable⟩

theorem free_append {first second : List Char} :
    Free marks (first ++ second) ↔ Free marks first ∧ Free marks second :=
  List.forall_mem_append

mutual

/-- What has been written without marked characters has texts without them. -/
theorem spared_of_free_compact : ∀ {json : Json}, Free marks (compact json) →
    Every (Spared marks) json
  | .null, _ | .bool _, _ | .int _, _ | .float _, _ => trivial
  | .text _, h => spared_of_free_quoted h
  | .array _, h => spared_of_free_compactItems h.tail
  | .object _, h => spared_of_free_compactFields h.tail

theorem spared_of_free_compactItems : ∀ {items : List Json}, Free marks (compactItems items) →
    EveryItem (Spared marks) items
  | [], _ => trivial
  | [_], h => ⟨spared_of_free_compact (free_append.1 h).1, trivial⟩
  | _ :: _ :: _, h => ⟨spared_of_free_compact (free_append.1 h).1,
      spared_of_free_compactItems (free_append.1 h).2.tail⟩

theorem spared_of_free_compactFields : ∀ {fields : List (String × Json)},
    Free marks (compactFields fields) → EveryField (Spared marks) fields
  | [], _ => trivial
  | [(_, _)], h =>
    have hfield := free_append.1 (free_append.1 h).1
    ⟨spared_of_free_quoted hfield.1, spared_of_free_compact hfield.2.tail, trivial⟩
  | (_, _) :: _ :: _, h =>
    have hfield := free_append.1 (free_append.1 h).1
    ⟨spared_of_free_quoted hfield.1, spared_of_free_compact hfield.2.tail,
      spared_of_free_compactFields (free_append.1 h).2.tail⟩

end

/-- Where no text of a value breaks lines, its line does not. -/
theorem unbroken_compact {json : Json} (h : Every Rounded json)
    (htexts : Every (Spared isLineBreak) json) : Unbroken (compact json) := by
  refine free_compact (fun c hlow hhigh => ?_) h htexts
  simp only [isLineBreak, Bool.or_eq_false_iff, Bool.and_eq_false_iff, decide_eq_false_iff_not,
    beq_eq_false_iff_ne]
  omega

/-! ### Lines of their own -/

mutual

theorem every_of_forall {holds : Json → Prop} (h : ∀ part, holds part) : ∀ json, Every holds json
  | .array items => everyItem_of_forall h items
  | .object fields => everyField_of_forall h fields
  | .null => h _
  | .bool _ => h _
  | .int _ => h _
  | .float _ => h _
  | .text _ => h _

theorem everyItem_of_forall {holds : Json → Prop} (h : ∀ part, holds part) :
    ∀ items, EveryItem holds items
  | [] => trivial
  | item :: rest => ⟨every_of_forall h item, everyItem_of_forall h rest⟩

theorem everyField_of_forall {holds : Json → Prop} (h : ∀ part, holds part) :
    ∀ fields, EveryField holds fields
  | [] => trivial
  | (_, value) :: rest => ⟨h _, every_of_forall h value, everyField_of_forall h rest⟩

end

theorem free_newLine (h : Rare marks) (hline : marks '\n' = false) (depth : Nat) :
    Free marks (newLine depth) := by
  refine .cons hline (h.free fun c hc => ?_)
  rw [List.eq_of_mem_replicate hc]
  decide

mutual

theorem free_indented (h : Rare marks) (hline : marks '\n' = false) : ∀ (depth : Nat) {json : Json},
    Every Rounded json → Every (Spared marks) json → Free marks (indented depth json)
  | _, .null, _, _ => free_null h
  | _, .bool value, _, _ => free_bool h value
  | _, .int value, _, _ => free_int h value
  | _, .float _, hvalue, _ => free_writtenFloat h hvalue
  | _, .text _, _, htext => free_quoted h htext
  | _, .array [], _, _ => .cons (free_char h (by decide)) (free_mark h (by decide))
  | _, .object [], _, _ => .cons (free_char h (by decide)) (free_mark h (by decide))
  | depth, .array (_ :: _), hitems, hall =>
    .cons (free_char h (by decide)) (free_indentedItems h hline (depth + 1) hitems hall)
  | depth, .object (_ :: _), hfields, hall =>
    .cons (free_char h (by decide)) (free_indentedFields h hline (depth + 1) hfields hall)

theorem free_indentedItems (h : Rare marks) (hline : marks '\n' = false) : ∀ (depth : Nat)
    {items : List Json}, EveryItem Rounded items → EveryItem (Spared marks) items →
    Free marks (indentedItems depth items)
  | _, [], _, _ => free_mark h (by decide)
  | depth, [_], hitems, hall =>
    (((free_newLine h hline depth).append (free_indented h hline depth hitems.1 hall.1)).append
      (free_newLine h hline (depth - 1))).append (free_mark h (by decide))
  | depth, _ :: _ :: _, hitems, hall =>
    ((free_newLine h hline depth).append (free_indented h hline depth hitems.1 hall.1)).append
      (.cons (free_char h (by decide)) (free_indentedItems h hline depth hitems.2 hall.2))

theorem free_indentedFields (h : Rare marks) (hline : marks '\n' = false) : ∀ (depth : Nat)
    {fields : List (String × Json)}, EveryField Rounded fields →
    EveryField (Spared marks) fields → Free marks (indentedFields depth fields)
  | _, [], _, _ => free_mark h (by decide)
  | depth, [(_, _)], hfields, hall =>
    ((((free_newLine h hline depth).append (free_quoted h hall.1)).append
      (.cons (free_char h (by decide)) (.cons (free_char h (by decide))
        (free_indented h hline depth hfields.2.1 hall.2.1)))).append
          (free_newLine h hline (depth - 1))).append (free_mark h (by decide))
  | depth, (_, _) :: _ :: _, hfields, hall =>
    (((free_newLine h hline depth).append (free_quoted h hall.1)).append
      (.cons (free_char h (by decide)) (.cons (free_char h (by decide))
        (free_indented h hline depth hfields.2.1 hall.2.1)))).append
          (.cons (free_char h (by decide)) (free_indentedFields h hline depth hfields.2.2 hall.2.2))

end

theorem ne_return {c : Char} (h : 32 ≤ c.toNat) : (c == '\r') = false := by
  rw [beq_eq_false_iff_ne]
  rintro rfl
  exact absurd h (by decide)

theorem every_spared_return (json : Json) : Every (Spared (· == '\r')) json := by
  refine every_of_forall (fun part => ?_) json
  cases part with
  | text value => exact fun c _ hc => ne_return hc
  | _ => trivial

theorem return_notMem_of_free {text : List Char} (h : Free (· == '\r') text) : '\r' ∉ text := by
  intro hmem
  have hreturn := h _ hmem
  cases hreturn

/-- A carriage return is never written as it is. -/
theorem return_notMem_compact {json : Json} (h : Every Rounded json) : '\r' ∉ compact json :=
  return_notMem_of_free (free_compact (fun _ hlow _ => ne_return hlow) h (every_spared_return json))

theorem return_notMem_indented (depth : Nat) {json : Json} (h : Every Rounded json) :
    '\r' ∉ indented depth json :=
  return_notMem_of_free
    (free_indented (fun _ hlow _ => ne_return hlow) rfl depth h (every_spared_return json))

/-! ### Inside of the texts and outside of them -/

open Text (isAsciiDigit isLineBreak Unbroken)

/-- Where a character of a written value stands. -/
inductive Side
  | outside
  /-- Right behind a text. -/
  | behind
  | inside
  /-- Right behind a backslash inside a text. -/
  | escaped
deriving DecidableEq

/-- A printable basic character. -/
def isPlain (c : Char) : Bool := 32 ≤ c.toNat && c.toNat < 127

/-- What may stand behind a text. -/
def isMark (c : Char) : Bool := c == ',' || c == ':' || c == ']' || c == '\x7d'

/-- A printable basic character that neither begins a text nor an escape. -/
def isQuiet (c : Char) : Bool := isPlain c && c != '"' && c != '\\'

namespace Side

/-- The side of the character behind this one. -/
def next? (c : Char) : Side → Option Side
  | outside => if c == '"' then some inside else if isQuiet c then some outside else none
  | behind => if isMark c then some outside else none
  | inside => if c == '"' then some behind else if c == '\\' then some escaped else some inside
  | escaped => if isPlain c then some inside else none

/-- The side behind a text that begins on some side. -/
def walk (side : Side) (text : List Char) : Option Side :=
  text.foldlM (fun side c => side.next? c) side

/-- Between texts. -/
def Between (side : Side) : Prop := side = outside ∨ side = behind

theorem walk_cons (side : Side) (c : Char) (rest : List Char) :
    side.walk (c :: rest) = (side.next? c).bind (walk · rest) :=
  List.foldlM_cons

theorem walk_append (side : Side) (text rest : List Char) :
    side.walk (text ++ rest) = (side.walk text).bind (walk · rest) :=
  List.foldlM_append

theorem isQuiet_of_isMark {c : Char} (h : isMark c = true) : isQuiet c = true := by
  simp only [isMark, Bool.or_eq_true, beq_iff_eq] at h
  rcases h with ((rfl | rfl) | rfl) | rfl <;> decide

theorem next?_outside {c : Char} (h : isQuiet c = true) : outside.next? c = some outside := by
  have hquote : ¬(c == '"') = true := by
    simp only [isQuiet, Bool.and_eq_true, bne_iff_ne] at h
    simpa using h.1.2
  rw [next?, if_neg hquote, if_pos h]

theorem Between.next? {side : Side} (h : side.Between) {c : Char} (hc : isMark c = true) :
    side.next? c = some outside := by
  rcases h with rfl | rfl
  · exact next?_outside (isQuiet_of_isMark hc)
  · exact if_pos hc

theorem walk_quiet {text : List Char} (h : ∀ c ∈ text, isQuiet c = true) :
    outside.walk text = some outside := by
  induction text with
  | nil => rfl
  | cons c text ih =>
    rw [List.forall_mem_cons] at h
    rw [walk_cons, next?_outside h.1, Option.bind_some, ih h.2]

/-- A text that ends between texts, with a mark behind it. -/
theorem walk_append_mark {text : List Char}
    (h : ∃ side, outside.walk text = some side ∧ side.Between) {c : Char} (hc : isMark c = true)
    (rest : List Char) : outside.walk (text ++ c :: rest) = outside.walk rest := by
  obtain ⟨side, hside, hbetween⟩ := h
  rw [walk_append, hside, Option.bind_some, walk_cons, hbetween.next? hc, Option.bind_some]

/-! ### Written values -/

theorem isQuiet_of_isAsciiDigit {c : Char} (h : isAsciiDigit c = true) : isQuiet c = true := by
  have hrange : '0' ≤ c ∧ c ≤ '9' := by
    simpa only [isAsciiDigit, Bool.and_eq_true, decide_eq_true_eq] using h
  have hlow : 48 ≤ c.toNat := hrange.1
  have hhigh : c.toNat ≤ 57 := hrange.2
  have hne : ∀ d : Char, d.toNat < 48 ∨ 57 < d.toNat → c ≠ d := by
    rintro d hd rfl
    omega
  simp only [isQuiet, isPlain, Bool.and_eq_true, decide_eq_true_eq, bne_iff_ne]
  exact ⟨⟨by omega, hne _ (by decide)⟩, hne _ (by decide)⟩

theorem isQuiet_int (value : Int) : ∀ c ∈ (toString value).toList, isQuiet c = true := by
  intro c hc
  rw [Decimal.toList_toString_int] at hc
  rcases List.mem_append.1 hc with hsign | hdigit
  · rw [Decimal.mem_signText hsign]
    decide
  · exact isQuiet_of_isAsciiDigit (Decimal.isAsciiDigit_toString _ c hdigit)

theorem isQuiet_writtenFloat {value : Decimal.Binary64} (h : value.Normal) :
    ∀ c ∈ writtenFloat value, isQuiet c = true := by
  have hnull : ∀ c ∈ "null".toList, isQuiet c = true := forall_mem_of_all (by decide)
  cases value with
  | nan | infinite negative => exact hnull
  | finite negative mantissa exponent =>
    obtain ⟨digits, unit, htext, -⟩ := Decimal.Binary64.toShortest_spec negative h
    intro c hc
    rcases htext.mem hc with hdigit | hmark
    · exact isQuiet_of_isAsciiDigit hdigit
    · simp only [List.mem_cons, List.not_mem_nil, or_false] at hmark
      rcases hmark with rfl | rfl | rfl | rfl <;> decide

theorem next?_inside {c : Char} (hquote : c ≠ '"') (hescape : c ≠ '\\') :
    inside.next? c = some inside := by
  rw [next?, if_neg (by simpa using hquote), if_neg (by simpa using hescape)]

theorem walk_escapeChar (c : Char) : inside.walk (escapeChar c) = some inside := by
  have hhex : ∀ n < 16, inside.next? (hexChar n) = some inside := by decide
  unfold escapeChar
  split
  · rfl
  · rfl
  · rfl
  · rfl
  · rfl
  · rfl
  · rfl
  · next hquote hescape _ _ _ _ _ =>
    split
    · change (inside.next? _).bind (walk · [hexChar (c.toNat % 16)]) = _
      rw [hhex _ (by omega), Option.bind_some, walk_cons, hhex _ (by omega)]
      rfl
    · rw [walk_cons, next?_inside hquote hescape]
      rfl

theorem walk_escaped (chars : List Char) : inside.walk (chars.flatMap escapeChar) = some inside := by
  induction chars with
  | nil => rfl
  | cons c chars ih => rw [List.flatMap_cons, walk_append, walk_escapeChar, Option.bind_some, ih]

theorem walk_quoted (text : String) : outside.walk (quoted text) = some behind := by
  change inside.walk (text.toList.flatMap escapeChar ++ ['"']) = _
  rw [walk_append, walk_escaped, Option.bind_some]
  rfl

theorem walk_field (key : String) (rest : List Char) :
    outside.walk (quoted key ++ ':' :: rest) = outside.walk rest :=
  walk_append_mark ⟨behind, walk_quoted key, .inr rfl⟩ rfl rest

theorem exists_walk_quiet {text : List Char} (h : ∀ c ∈ text, isQuiet c = true) :
    ∃ side, outside.walk text = some side ∧ side.Between :=
  ⟨outside, walk_quiet h, .inl rfl⟩

mutual

/-- A value that is written between texts ends between texts. -/
theorem exists_walk_compact : ∀ {json : Json}, Every Rounded json →
    ∃ side, outside.walk (compact json) = some side ∧ side.Between
  | .null, _ => exists_walk_quiet (forall_mem_of_all (by decide))
  | .bool true, _ => exists_walk_quiet (forall_mem_of_all (by decide))
  | .bool false, _ => exists_walk_quiet (forall_mem_of_all (by decide))
  | .int value, _ => exists_walk_quiet (isQuiet_int value)
  | .float _, h => exists_walk_quiet (isQuiet_writtenFloat h)
  | .text value, _ => ⟨behind, walk_quoted value, .inr rfl⟩
  | .array _, h => ⟨outside, walk_compactItems h, .inl rfl⟩
  | .object _, h => ⟨outside, walk_compactFields h, .inl rfl⟩

theorem walk_compactItems : ∀ {items : List Json}, EveryItem Rounded items →
    outside.walk (compactItems items) = some outside
  | [], _ => rfl
  | [_], h => walk_append_mark (exists_walk_compact h.1) rfl []
  | _ :: _ :: _, h =>
    (walk_append_mark (exists_walk_compact h.1) rfl _).trans (walk_compactItems h.2)

theorem walk_compactFields : ∀ {fields : List (String × Json)}, EveryField Rounded fields →
    outside.walk (compactFields fields) = some outside
  | [], _ => rfl
  | [(key, value)], h => by
    rw [compactFields, List.append_assoc, List.cons_append, walk_field]
    exact walk_append_mark (exists_walk_compact h.2.1) rfl []
  | (key, value) :: next :: rest, h => by
    have htext : compactFields ((key, value) :: next :: rest) =
      quoted key ++ ':' :: compact value ++ ',' :: compactFields (next :: rest) := rfl
    rw [htext, List.append_assoc, List.cons_append, walk_field,
      walk_append_mark (exists_walk_compact h.2.1) rfl]
    exact walk_compactFields h.2.2

end

/-- An object that is written between texts ends behind its closing bracket. -/
theorem walk_compact_object {fields : List (String × Json)} (h : EveryField Rounded fields) :
    outside.walk (compact (.object fields)) = some outside :=
  walk_compactFields h

/-! ### Line breaks -/

theorem isPlain_of_isLineBreak {c : Char} (h : isLineBreak c = true) : isPlain c = false := by
  simp only [isLineBreak, Bool.or_eq_true, Bool.and_eq_true, decide_eq_true_eq, beq_iff_eq] at h
  simp only [isPlain, Bool.and_eq_false_iff, decide_eq_false_iff_not]
  omega

/-- Lines break inside of texts only. -/
theorem inside_of_next? {side next : Side} {c : Char} (hc : isLineBreak c = true)
    (h : side.next? c = some next) : side = inside ∧ next = inside := by
  have hplain := isPlain_of_isLineBreak hc
  have hquiet : isQuiet c = false := by simp [isQuiet, hplain]
  have hquote : ¬(c == '"') = true := by
    rw [beq_iff_eq]
    rintro rfl
    cases hc
  have hescape : ¬(c == '\\') = true := by
    rw [beq_iff_eq]
    rintro rfl
    cases hc
  cases side with
  | outside => simp [next?, hquote, hquiet] at h
  | behind =>
    have hmark : isMark c = false := by
      rw [Bool.eq_false_iff]
      intro hmark
      rw [isQuiet_of_isMark hmark] at hquiet
      cases hquiet
    simp [next?, hmark] at h
  | inside =>
    rw [next?, if_neg hquote, if_neg hescape] at h
    exact ⟨rfl, (Option.some.inj h).symm⟩
  | escaped => simp [next?, hplain] at h

/-- A text that breaks into lines is cut inside of one of its texts. -/
theorem inside_of_walk {side last : Side} {text rest : List Char} {c : Char}
    (hc : isLineBreak c = true) (h : side.walk (text ++ c :: rest) = some last) :
    side.walk text = some inside ∧ inside.walk rest = some last := by
  rw [walk_append] at h
  obtain ⟨middle, hmiddle, h⟩ := Option.bind_eq_some_iff.1 h
  rw [walk_cons] at h
  obtain ⟨next, hnext, hrest⟩ := Option.bind_eq_some_iff.1 h
  obtain ⟨rfl, rfl⟩ := inside_of_next? hc hnext
  exact ⟨hmiddle, hrest⟩

end Side
end KotlinAudit.Json
