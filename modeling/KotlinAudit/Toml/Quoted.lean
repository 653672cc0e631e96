import KotlinAudit.Text.Character

/-! Quoted texts of a settings file: literal ones, which have no escapes, and basic ones, both on one
line or on several. -/
namespace KotlinAudit.Toml

inductive Fault
  | malformed
  /-- An integer with more digits than are ever read. -/
  | tooManyDigits
  /-- Values lie too deep within each other. -/
  | tooDeep
deriving DecidableEq, Repr

abbrev Step (α : Type) := Except Fault (α × List Char)

/-- Tabs may stand anywhere; other control characters may not. -/
def isControl (c : Char) : Bool := c != '\t' && (c.toNat < 32 || c.toNat == 127)

/-- Control characters except line feeds, which texts on several lines contain. -/
def isLongControl (c : Char) : Bool := c != '\n' && isControl c

def isSpace (c : Char) : Bool := c == ' ' || c == '\t'
def isSpaceOrBreak (c : Char) : Bool := isSpace c || c == '\n'

def literal : List Char → Step (List Char)
  | [] => .error .malformed
  | c :: rest =>
    if c == '\'' then .ok ([], rest)
    else if isControl c then .error .malformed
    else (literal rest).map fun (text, rest) => (c :: text, rest)

def longLiteral : List Char → Step (List Char)
  | [] => .error .malformed
  | '\'' :: '\'' :: '\'' :: rest => .ok ([], rest)
  | c :: rest =>
    if isLongControl c then .error .malformed
    else (longLiteral rest).map fun (text, rest) => (c :: text, rest)

private def hexValue? (c : Char) : Option Nat :=
  if Text.isAsciiDigit c then some (c.toNat - 48)
  else if 'a' ≤ c && c ≤ 'f' then some (c.toNat - 87)
  else if 'A' ≤ c && c ≤ 'F' then some (c.toNat - 55)
  else none

/-- The character whose number the next `count` digits give, and these digits' count. -/
private def numbered? (count : Nat) (text : List Char) : Option (Char × Nat) :=
  let digits := text.take count
  if digits.length < count then none
  else match digits.mapM hexValue? with
    | none => none
    | some values =>
      let n := values.foldl (fun n value => n * 16 + value) 0
      if n < 0xD800 || (0xE000 ≤ n && n < 0x110000) then some (Char.ofNat n, count) else none

/-- The character of the escape after a backslash, and how many characters the escape takes. -/
def escape? : List Char → Option (Char × Nat)
  | 'b' :: _ => some ('\x08', 1)
  | 't' :: _ => some ('\t', 1)
  | 'n' :: _ => some ('\n', 1)
  | 'f' :: _ => some ('\x0c', 1)
  | 'r' :: _ => some ('\r', 1)
  | '"' :: _ => some ('"', 1)
  | '\\' :: _ => some ('\\', 1)
  | 'u' :: rest => (numbered? 4 rest).map fun (c, count) => (c, count + 1)
  | 'U' :: rest => (numbered? 8 rest).map fun (c, count) => (c, count + 1)
  | _ => none

def basic : List Char → Step (List Char)
  | [] => .error .malformed
  | c :: rest =>
    if c == '"' then .ok ([], rest)
    else if c == '\\' then
      match escape? rest with
      | none => .error .malformed
      | some (found, count) =>
        (basic (rest.drop count)).map fun (text, rest) => (found :: text, rest)
    else if isControl c then .error .malformed
    else (basic rest).map fun (text, rest) => (c :: text, rest)
termination_by text => text.length
decreasing_by all_goals simp only [List.length_drop, List.length_cons]; omega

/-- What follows a backslash at the end of a line, from the next character that is no blank on; none
if the backslash is not at the end of a line. -/
def continued? (text : List Char) : Option (List Char) :=
  match text.dropWhile isSpace with
  | '\n' :: rest => some (rest.dropWhile isSpaceOrBreak)
  | _ => none

theorem length_continued {text rest : List Char} (h : continued? text = some rest) :
    rest.length ≤ text.length := by
  unfold continued? at h
  split at h
  · rename_i after heq
    have hfirst := (List.dropWhile_sublist isSpace (l := text)).length_le
    have hlast := (List.dropWhile_sublist isSpaceOrBreak (l := after)).length_le
    obtain rfl := Option.some.inj h
    rw [heq] at hfirst
    simp only [List.length_cons] at hfirst
    omega
  · simp at h

def longBasic : List Char → Step (List Char)
  | [] => .error .malformed
  | '"' :: '"' :: '"' :: rest => .ok ([], rest)
  | c :: rest =>
    if c == '\\' then
      match _h : continued? rest with
      | some after => longBasic after
      | none =>
        match escape? rest with
        | none => .error .malformed
        | some (found, count) =>
          (longBasic (rest.drop count)).map fun (text, rest) => (found :: text, rest)
    else if isLongControl c then .error .malformed
    else (longBasic rest).map fun (text, rest) => (c :: text, rest)
termination_by text => text.length
decreasing_by
  · have := length_continued _h
    simp only [List.length_cons]; omega
  · simp only [List.length_drop, List.length_cons]; omega
  · simp

/-- A text on several lines does not hold a line feed that stands right after its opening. -/
def afterOpening : List Char → List Char
  | '\n' :: rest => rest
  | rest => rest

/-- One or two quotes right before the closing ones belong to the text. -/
def withClosing (quote : Char) : List Char × List Char → List Char × List Char
  | (text, c :: d :: rest) =>
    if c == quote && d == quote then (text ++ [quote, quote], rest)
    else if c == quote then (text ++ [quote], d :: rest)
    else (text, c :: d :: rest)
  | (text, [c]) => if c == quote then (text ++ [quote], []) else (text, [c])
  | step => step

/-- The quoted text at the start of a text, none when that starts with no quote. -/
def quoted? (text : List Char) : Option (Step (List Char)) :=
  match text with
  | '\'' :: '\'' :: '\'' :: rest =>
    some ((longLiteral (afterOpening rest)).map (withClosing '\''))
  | '"' :: '"' :: '"' :: rest => some ((longBasic (afterOpening rest)).map (withClosing '"'))
  | '\'' :: rest => some (literal rest)
  | '"' :: rest => some (basic rest)
  | _ => none

end KotlinAudit.Toml
