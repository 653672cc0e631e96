import KotlinAudit.Json.Reader
import KotlinAudit.Json.Writer
import KotlinAudit.Proofs.Decimal.Layout

/-! The tokens of a written value. The reader takes a text one character at a time; a text between
tokens gives its own tokens whatever follows it, and a word does so before a character that ends
it. A value on lines of its own has the same tokens. -/
namespace KotlinAudit.Json

variable {dialect : Dialect}

/-- What holds of all characters of a text, looked at one after the other. -/
theorem forall_mem_of_all {p : Char → Prop} [DecidablePred p] {text : List Char}
    (h : (text.all fun c => p c) = true) : ∀ c ∈ text, p c :=
  fun c hc => of_decide_eq_true (List.all_eq_true.1 h c hc)

/-- Reads a text from some state on. -/
def feed (dialect : Dialect) (state : Progress × Mode) (text : List Char) :
    Except Fault (Progress × Mode) :=
  text.foldlM (readChar dialect) state

theorem feed_cons (state : Progress × Mode) (c : Char) (rest : List Char) :
    feed dialect state (c :: rest) = readChar dialect state c >>= fun state =>
      feed dialect state rest :=
  List.foldlM_cons

/-- A text that gives these tokens between others. -/
def Lexes (dialect : Dialect) (text : List Char) (tokens : List Token) : Prop :=
  ∀ progress rest, feed dialect (progress, .between) (text ++ rest) =
    tokens.foldlM (Progress.next dialect) progress >>= fun progress =>
      feed dialect (progress, .between) rest

/-- A character that ends a word stands first. -/
def EndsWord (text : List Char) : Prop := ∃ c rest, text = c :: rest ∧ endsWord c = true

/-- A text that gives these tokens before the end of a word. -/
def LexesBefore (dialect : Dialect) (text : List Char) (tokens : List Token) : Prop :=
  ∀ progress rest, EndsWord rest → feed dialect (progress, .between) (text ++ rest) =
    tokens.foldlM (Progress.next dialect) progress >>= fun progress =>
      feed dialect (progress, .between) rest

theorem Lexes.before {text : List Char} {tokens : List Token} (h : Lexes dialect text tokens) :
    LexesBefore dialect text tokens :=
  fun progress rest _ => h progress rest

theorem Lexes.nil : Lexes dialect [] [] := fun _ _ => rfl

theorem Lexes.append {first second : List Char} {tokens others : List Token}
    (h : Lexes dialect first tokens) (hsecond : Lexes dialect second others) :
    Lexes dialect (first ++ second) (tokens ++ others) := by
  intro progress rest
  rw [List.append_assoc, h, List.foldlM_append, bind_assoc]
  exact congrArg _ (funext fun progress => hsecond progress rest)

theorem LexesBefore.append {first second : List Char} {tokens others : List Token}
    (h : LexesBefore dialect first tokens) (hsecond : Lexes dialect second others)
    (hends : EndsWord second) : Lexes dialect (first ++ second) (tokens ++ others) := by
  intro progress rest
  obtain ⟨c, more, rfl, hc⟩ := hends
  rw [List.append_assoc, h _ (c :: more ++ rest) ⟨c, more ++ rest, rfl, hc⟩, List.foldlM_append,
    bind_assoc]
  exact congrArg _ (funext fun progress => hsecond progress rest)

theorem Lexes.append_before {first second : List Char} {tokens others : List Token}
    (h : Lexes dialect first tokens) (hsecond : LexesBefore dialect second others) :
    LexesBefore dialect (first ++ second) (tokens ++ others) := by
  intro progress rest hrest
  rw [List.append_assoc, h, List.foldlM_append, bind_assoc]
  exact congrArg _ (funext fun progress => hsecond progress rest hrest)

theorem readChar_between (progress : Progress) (c : Char) :
    readChar dialect (progress, .between) c =
      ((begin c).1.foldlM (Progress.next dialect) progress).map fun progress =>
        (progress, (begin c).2) := rfl

/-- A character that is a token. -/
theorem Lexes.mark {c : Char} {token : Token} (h : begin c = ([token], .between)) :
    Lexes dialect [c] [token] := by
  intro progress rest
  rw [List.singleton_append, feed_cons, readChar_between, h]
  simp only [List.foldlM_cons, List.foldlM_nil, bind_pure]
  cases Progress.next dialect progress token <;> rfl

/-- A character between tokens. -/
theorem Lexes.blank {c : Char} (h : begin c = ([], .between)) : Lexes dialect [c] [] := by
  intro progress rest
  rw [List.singleton_append, feed_cons, readChar_between, h]
  rfl

theorem Lexes.blanks {text : List Char} (h : ∀ c ∈ text, begin c = ([], .between)) :
    Lexes dialect text [] := by
  induction text with
  | nil => exact .nil
  | cons c rest ih =>
    exact (Lexes.blank (h c List.mem_cons_self)).append
      (ih fun c hc => h c (List.mem_cons_of_mem _ hc))

theorem begin_eq_blank_iff {c : Char} :
    begin c = ([], .between) ↔ c = ' ' ∨ c = '\n' ∨ c = '\r' ∨ c = '\t' := by
  constructor
  · intro h
    unfold begin at h
    split at h
    · exact .inl rfl
    · exact .inr (.inl rfl)
    · exact .inr (.inr (.inl rfl))
    · exact .inr (.inr (.inr rfl))
    iterate 8 cases h
  · rintro (rfl | rfl | rfl | rfl) <;> rfl

/-- Blanks in front of a value do not count. -/
theorem read_blanks_append {text : List Char} (h : ∀ c ∈ text, begin c = ([], .between))
    (rest : List Char) : read dialect (text ++ rest) = read dialect rest := by
  have hfeed : feed dialect (⟨[], .value⟩, .between) (text ++ rest) =
      feed dialect (⟨[], .value⟩, .between) rest := (Lexes.blanks h) _ rest
  change (feed dialect (⟨[], .value⟩, .between) (text ++ rest) >>= _) = _
  rw [hfeed]
  rfl

/-! ### Words -/

theorem begin_of_not_endsWord {c : Char} (h : endsWord c = false) : begin c = ([], .word [c]) := by
  unfold begin
  split <;> first | rfl | exact absurd h (by decide)

/-- The characters of a word are kept until its end. -/
theorem feed_word (progress : Progress) (read : List Char) {word : List Char}
    (h : ∀ c ∈ word, endsWord c = false) (rest : List Char) :
    feed dialect (progress, .word read) (word ++ rest) =
      feed dialect (progress, .word (word.reverse ++ read)) rest := by
  induction word generalizing read with
  | nil => rfl
  | cons c word ih =>
    have hc := h c List.mem_cons_self
    rw [List.cons_append, feed_cons, List.reverse_cons, List.append_assoc, List.singleton_append]
    have hread : readChar dialect (progress, .word read) c = .ok (progress, .word (c :: read)) := by
      simp only [readChar, Mode.next?, hc, Bool.false_eq_true, if_false]
      rfl
    rw [hread]
    exact ih (c :: read) (fun c hc => h c (List.mem_cons_of_mem _ hc))

theorem LexesBefore.word {word : List Char} (hne : word ≠ [])
    (h : ∀ c ∈ word, endsWord c = false) : LexesBefore dialect word [.word word] := by
  rintro progress _ ⟨c, rest, rfl, hc⟩
  obtain ⟨first, others, rfl⟩ := List.exists_cons_of_ne_nil hne
  have hfirst := begin_of_not_endsWord (h first List.mem_cons_self)
  rw [List.cons_append, feed_cons, readChar_between, hfirst]
  change feed dialect (progress, .word [first]) (others ++ c :: rest) = _
  rw [feed_word progress _ (fun c hc => h c (List.mem_cons_of_mem _ hc)), feed_cons]
  have hread : readChar dialect (progress, .word (others.reverse ++ [first])) c =
      ((Token.word (first :: others) :: (begin c).1).foldlM (Progress.next dialect) progress).map
        fun progress => (progress, (begin c).2) := by
    simp only [readChar, Mode.next?, hc, if_true, List.reverse_append, List.reverse_reverse,
      List.reverse_singleton, List.singleton_append]
  rw [hread]
  simp only [List.foldlM_cons, List.foldlM_nil, bind_pure]
  cases hnext : Progress.next dialect progress (.word (first :: others)) with
  | error fault => rfl
  | ok progress =>
    change (((begin c).1.foldlM (Progress.next dialect) progress).map _ >>= _) =
      feed dialect (progress, .between) (c :: rest)
    rw [feed_cons, readChar_between]

/-! ### Texts -/

theorem not_half_of_char (c : Char) : (isHighHalf c.toNat || isLowHalf c.toNat) = false := by
  have hvalid := c.valid
  simp only [isHighHalf, isLowHalf, Bool.or_eq_false_iff, Bool.and_eq_false_iff,
    decide_eq_false_iff_not]
  rcases hvalid with hsmall | hlarge
  · have : c.toNat < 0xD800 := hsmall
    omega
  · have : 0xDFFF < c.toNat := hlarge.1
    omega

/-- The code units of characters are read as the characters. -/
theorem ofUnits?_map_toNat (chars : List Char) :
    ofUnits? dialect (chars.map Char.toNat) = some chars := by
  induction chars with
  | nil => rfl
  | cons c rest ih =>
    have hhalf := not_half_of_char c
    obtain ⟨hhigh, hlow⟩ := Bool.or_eq_false_iff.1 hhalf
    cases rest with
    | nil =>
      simp only [List.map_cons, List.map_nil, ofUnits?, hhalf, Bool.false_eq_true, if_false,
        Char.ofNat_toNat]
    | cons d rest =>
      rw [List.map_cons] at ih
      rw [List.map_cons, List.map_cons]
      simp only [ofUnits?, hhigh, hlow, Bool.false_and, Bool.or_false, Bool.false_eq_true,
        if_false]
      rw [ih, Option.map_some, Char.ofNat_toNat]

theorem hexDigit?_hexChar : ∀ n < 16, hexDigit? (hexChar n) = some n := by decide

theorem feed_plain (progress : Progress) (units : List Nat) {c : Char} (hquote : c ≠ '"')
    (hescape : c ≠ '\\') (hcontrol : ¬ c.toNat < 32) (rest : List Char) :
    feed dialect (progress, .quoted units) (c :: rest) =
      feed dialect (progress, .quoted (c.toNat :: units)) rest := by
  rw [feed_cons]
  have hread : readChar dialect (progress, .quoted units) c =
      .ok (progress, .quoted (c.toNat :: units)) := by
    simp only [readChar, Mode.next?, beq_iff_eq, hquote, hescape, hcontrol, if_false]
    rfl
  rw [hread]
  rfl

/-- A control character is written by its code unit. -/
theorem feed_codeUnit (progress : Progress) (units : List Nat) {n : Nat} (h : n < 256)
    (rest : List Char) : feed dialect (progress, .quoted units)
      ('\\' :: 'u' :: '0' :: '0' :: hexChar (n / 16) :: hexChar (n % 16) :: rest) =
        feed dialect (progress, .quoted (n :: units)) rest := by
  have hhigh := hexDigit?_hexChar (n / 16) (by omega)
  have hlow := hexDigit?_hexChar (n % 16) (by omega)
  have hread : ∀ c digit, hexDigit? c = some digit → ∀ value,
      readChar dialect (progress, .codeUnit units 2 value) c =
        .ok (progress, .codeUnit units 3 (16 * value + digit)) := by
    intro c digit hc value
    simp only [readChar, Mode.next?, hc]
    rfl
  have hread' : ∀ c digit, hexDigit? c = some digit → ∀ value,
      readChar dialect (progress, .codeUnit units 3 value) c =
        .ok (progress, .quoted ((16 * value + digit) :: units)) := by
    intro c digit hc value
    simp only [readChar, Mode.next?, hc]
    rfl
  change feed dialect (progress, .codeUnit units 2 0) (hexChar (n / 16) :: hexChar (n % 16) :: rest)
    = _
  rw [feed_cons, hread _ _ hhigh]
  change feed dialect (progress, .codeUnit units 3 (16 * 0 + n / 16)) (hexChar (n % 16) :: rest) = _
  rw [feed_cons, hread' _ _ hlow, show 16 * (16 * 0 + n / 16) + n % 16 = n by omega]
  rfl

theorem feed_escapeChar (progress : Progress) (units : List Nat) (c : Char) (rest : List Char) :
    feed dialect (progress, .quoted units) (escapeChar c ++ rest) =
      feed dialect (progress, .quoted (c.toNat :: units)) rest := by
  unfold escapeChar
  split
  · rfl
  · rfl
  · rfl
  · rfl
  · rfl
  · rfl
  · rfl
  · next hquote hescape _ _ _ _ _ =>
    by_cases hcontrol : c.toNat < 32
    · rw [if_pos hcontrol]
      exact feed_codeUnit progress units (by omega) rest
    · rw [if_neg hcontrol]
      exact feed_plain progress units hquote hescape hcontrol rest

theorem feed_escaped (progress : Progress) (units : List Nat) (chars rest : List Char) :
    feed dialect (progress, .quoted units) (chars.flatMap escapeChar ++ rest) =
      feed dialect (progress, .quoted ((chars.map Char.toNat).reverse ++ units)) rest := by
  induction chars generalizing units with
  | nil => rfl
  | cons c chars ih =>
    rw [List.flatMap_cons, List.append_assoc, feed_escapeChar, ih, List.map_cons,
      List.reverse_cons, List.append_assoc, List.singleton_append]

theorem Lexes.quoted (text : String) : Lexes dialect (quoted text) [.text text] := by
  intro progress rest
  have hclose : readChar dialect (progress, .quoted ((text.toList.map Char.toNat).reverse)) '"' =
      (Progress.next dialect progress (.text text)).map fun progress => (progress, .between) := by
    simp only [readChar, Mode.next?, beq_self_eq_true, if_true, List.reverse_reverse,
      ofUnits?_map_toNat, Option.map_some, List.foldlM_cons, List.foldlM_nil, bind_pure,
      String.ofList_toList]
  change feed dialect (progress, .quoted []) ((text.toList.flatMap escapeChar ++ ['"']) ++ rest) = _
  rw [List.append_assoc, feed_escaped, List.append_nil, List.singleton_append, feed_cons, hclose]
  simp only [List.foldlM_cons, List.foldlM_nil, bind_pure]
  cases Progress.next dialect progress (.text text) <;> rfl

/-! ### Values -/

mutual

/-- The tokens of a value. -/
def tokens : Json → List Token
  | .null => [.word "null".toList]
  | .bool value => [.word (if value then "true" else "false").toList]
  | .int value => [.word (toString value).toList]
  | .float value => [.word (writtenFloat value)]
  | .text value => [.text value]
  | .array items => .beginArray :: itemTokens items
  | .object fields => .beginObject :: fieldTokens fields

/-- The tokens of the items of an array up to its end. -/
def itemTokens : List Json → List Token
  | [] => [.endArray]
  | [item] => tokens item ++ [.endArray]
  | item :: rest => tokens item ++ .comma :: itemTokens rest

/-- The tokens of the fields of an object up to its end. -/
def fieldTokens : List (String × Json) → List Token
  | [] => [.endObject]
  | [(key, value)] => .text key :: .colon :: tokens value ++ [.endObject]
  | (key, value) :: rest => .text key :: .colon :: tokens value ++ .comma :: fieldTokens rest

end

mutual

/-- Something holds of every part of a value that has no parts itself, and of every key as a text. -/
def Every (holds : Json → Prop) : Json → Prop
  | .array items => EveryItem holds items
  | .object fields => EveryField holds fields
  | part => holds part

def EveryItem (holds : Json → Prop) : List Json → Prop
  | [] => True
  | item :: rest => Every holds item ∧ EveryItem holds rest

def EveryField (holds : Json → Prop) : List (String × Json) → Prop
  | [] => True
  | (key, value) :: rest => holds (.text key) ∧ Every holds value ∧ EveryField holds rest

end

theorem everyItem_iff {holds : Json → Prop} {items : List Json} :
    EveryItem holds items ↔ ∀ item ∈ items, Every holds item := by
  induction items with
  | nil => simp [EveryItem]
  | cons item rest ih => rw [EveryItem, ih, List.forall_mem_cons]

theorem everyField_iff {holds : Json → Prop} {fields : List (String × Json)} :
    EveryField holds fields ↔ ∀ field ∈ fields, holds (.text field.1) ∧ Every holds field.2 := by
  induction fields with
  | nil => simp [EveryField]
  | cons field rest ih => rw [EveryField, ih, List.forall_mem_cons, and_assoc]

/-- A binary number is one that rounding can give. -/
def Rounded : Json → Prop
  | .float value => value.Normal
  | _ => True

theorem endsWord_of_isAsciiDigit {c : Char} (h : Text.isAsciiDigit c = true) :
    endsWord c = false := by
  rw [← Bool.not_eq_true]
  intro hends
  simp only [endsWord, Bool.or_eq_true, beq_iff_eq] at hends
  rcases hends with (((((((((rfl | rfl) | rfl) | rfl) | rfl) | rfl) | rfl) | rfl) | rfl) | rfl) | rfl
  all_goals exact absurd h (by decide)

theorem endsWord_int (value : Int) : ∀ c ∈ (toString value).toList, endsWord c = false := by
  intro c hc
  rw [Decimal.toList_toString_int] at hc
  rcases List.mem_append.1 hc with hsign | hdigit
  · rw [Decimal.mem_signText hsign]
    decide
  · exact endsWord_of_isAsciiDigit (Decimal.isAsciiDigit_toString _ c hdigit)

theorem int_ne_nil (value : Int) : (toString value).toList ≠ [] := by
  rw [Decimal.toList_toString_int]
  exact List.append_ne_nil_of_right_ne_nil _ (Decimal.toString_toList_ne_nil _)

theorem writtenFloat_spec {value : Decimal.Binary64} (h : value.Normal) :
    writtenFloat value ≠ [] ∧ ∀ c ∈ writtenFloat value, endsWord c = false := by
  have hnull : "null".toList ≠ [] ∧ ∀ c ∈ "null".toList, endsWord c = false :=
    ⟨by decide, forall_mem_of_all (by decide)⟩
  cases value with
  | nan => exact hnull
  | infinite negative => exact hnull
  | finite negative mantissa exponent =>
    obtain ⟨digits, unit, htext, -⟩ := Decimal.Binary64.toShortest_spec negative h
    refine ⟨htext.ne_nil, fun c hc => ?_⟩
    rcases htext.mem hc with hdigit | hmark
    · exact endsWord_of_isAsciiDigit hdigit
    · simp only [List.mem_cons, List.not_mem_nil, or_false] at hmark
      rcases hmark with rfl | rfl | rfl | rfl <;> decide

/-! ### Writers -/

theorem EndsWord.cons {c : Char} (h : endsWord c = true) (rest : List Char) : EndsWord (c :: rest) :=
  ⟨c, rest, rfl, h⟩

theorem lexesBefore_bool (value : Bool) : LexesBefore dialect
    (if value then "true" else "false").toList
    [.word (if value then "true" else "false").toList] := by
  cases value <;> exact .word (by decide) (forall_mem_of_all (by decide))

theorem lexes_newLine (depth : Nat) : Lexes dialect (newLine depth) [] := by
  refine .blanks fun c hc => ?_
  rcases List.mem_cons.1 hc with rfl | hc
  · rfl
  · rw [List.eq_of_mem_replicate hc]
    rfl

theorem endsWord_newLine (depth : Nat) (rest : List Char) : EndsWord (newLine depth ++ rest) :=
  .cons rfl _

/-- A field of an object, given its value. -/
theorem lexesBefore_field (key : String) {text : List Char} {others : List Token}
    (h : LexesBefore dialect text others) :
    LexesBefore dialect (quoted key ++ ':' :: text) (.text key :: .colon :: others) := by
  have hcolon : Lexes dialect [':'] [.colon] := .mark rfl
  exact (Lexes.quoted key).append_before (hcolon.append_before h)

/-- A field of an object on a line of its own. -/
theorem lexesBefore_line (depth : Nat) (key : String) {text : List Char} {others : List Token}
    (h : LexesBefore dialect text others) : LexesBefore dialect
      (newLine depth ++ quoted key ++ ':' :: ' ' :: text) (.text key :: .colon :: others) := by
  have hblank : Lexes dialect [' '] [] := .blank rfl
  rw [List.append_assoc]
  exact (lexes_newLine depth).append_before (lexesBefore_field key (hblank.append_before h))

theorem lexesBefore_null : LexesBefore dialect "null".toList [.word "null".toList] :=
  .word (by decide) (forall_mem_of_all (by decide))

mutual

/-- A value on one line gives its tokens. -/
theorem lexesBefore_compact : ∀ {json : Json}, Every Rounded json →
    LexesBefore dialect (compact json) (tokens json)
  | .null, _ => lexesBefore_null
  | .bool value, _ => lexesBefore_bool value
  | .int value, _ => .word (int_ne_nil value) (endsWord_int value)
  | .float _, h => .word (writtenFloat_spec h).1 (writtenFloat_spec h).2
  | .text value, _ => (Lexes.quoted value).before
  | .array _, h => ((Lexes.mark (c := '[') rfl).append (lexes_compactItems h)).before
  | .object _, h => ((Lexes.mark (c := '\x7b') rfl).append (lexes_compactFields h)).before

theorem lexes_compactItems : ∀ {items : List Json}, EveryItem Rounded items →
    Lexes dialect (compactItems items) (itemTokens items)
  | [], _ => .mark rfl
  | [_], h => (lexesBefore_compact h.1).append (.mark rfl) (.cons rfl _)
  | _ :: _ :: _, h => (lexesBefore_compact h.1).append
      ((Lexes.mark (c := ',') rfl).append (lexes_compactItems h.2)) (.cons rfl _)

theorem lexes_compactFields : ∀ {fields : List (String × Json)}, EveryField Rounded fields →
    Lexes dialect (compactFields fields) (fieldTokens fields)
  | [], _ => .mark rfl
  | [(key, _)], h => (lexesBefore_field key (lexesBefore_compact h.2.1)).append (.mark rfl)
      (.cons rfl _)
  | (key, _) :: _ :: _, h => (lexesBefore_field key (lexesBefore_compact h.2.1)).append
      ((Lexes.mark (c := ',') rfl).append (lexes_compactFields h.2.2)) (.cons rfl _)

end

/-! ### Values on lines of their own -/

mutual

theorem lexesBefore_indented : ∀ (depth : Nat) {json : Json}, Every Rounded json →
    LexesBefore dialect (indented depth json) (tokens json)
  | _, .null, _ => lexesBefore_null
  | _, .bool value, _ => lexesBefore_bool value
  | _, .int value, _ => .word (int_ne_nil value) (endsWord_int value)
  | _, .float _, h => .word (writtenFloat_spec h).1 (writtenFloat_spec h).2
  | _, .text value, _ => (Lexes.quoted value).before
  | _, .array [], _ => ((Lexes.mark (c := '[') rfl).append (.mark rfl)).before
  | _, .object [], _ => ((Lexes.mark (c := '\x7b') rfl).append (.mark rfl)).before
  | depth, .array (_ :: _), h =>
    ((Lexes.mark (c := '[') rfl).append (lexes_indentedItems (depth + 1) h)).before
  | depth, .object (_ :: _), h =>
    ((Lexes.mark (c := '\x7b') rfl).append (lexes_indentedFields (depth + 1) h)).before

theorem lexes_indentedItems : ∀ (depth : Nat) {items : List Json}, EveryItem Rounded items →
    Lexes dialect (indentedItems depth items) (itemTokens items)
  | _, [], _ => .mark rfl
  | depth, [_], h => by
    have hitem := (lexes_newLine depth).append_before (lexesBefore_indented depth h.1)
    have hclose : Lexes dialect (newLine (depth - 1) ++ [']']) [.endArray] :=
      (lexes_newLine (depth - 1)).append (.mark rfl)
    rw [indentedItems, List.append_assoc]
    exact hitem.append hclose (endsWord_newLine _ _)
  | depth, _ :: _ :: _, h => by
    have hitem := (lexes_newLine depth).append_before (lexesBefore_indented depth h.1)
    exact hitem.append ((Lexes.mark (c := ',') rfl).append (lexes_indentedItems depth h.2))
      (.cons rfl _)

theorem lexes_indentedFields : ∀ (depth : Nat) {fields : List (String × Json)},
    EveryField Rounded fields → Lexes dialect (indentedFields depth fields) (fieldTokens fields)
  | _, [], _ => .mark rfl
  | depth, [(key, _)], h => by
    have hfield := lexesBefore_line depth key (lexesBefore_indented depth h.2.1)
    have hclose : Lexes dialect (newLine (depth - 1) ++ ['\x7d']) [.endObject] :=
      (lexes_newLine (depth - 1)).append (.mark rfl)
    rw [indentedFields, List.append_assoc]
    exact hfield.append hclose (endsWord_newLine _ _)
  | depth, (key, _) :: _ :: _, h =>
    (lexesBefore_line depth key (lexesBefore_indented depth h.2.1)).append
      ((Lexes.mark (c := ',') rfl).append (lexes_indentedFields depth h.2.2)) (.cons rfl _)

end

end KotlinAudit.Json
