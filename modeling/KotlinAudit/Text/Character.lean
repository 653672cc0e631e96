import KotlinAudit.Text.CharacterTables

/-! The character classes that reading source code asks for. Classes cover every script; the
lists for scripts beyond the Latin basics are tables, and characters below 128 are decided
directly because nearly all source text is made of them. -/
namespace KotlinAudit.Text

/-- Membership in an increasing list of inclusive ranges; the first range beyond `n` ends the search. -/
def inRanges : List (Nat × Nat) → Nat → Bool
  | [], _ => false
  | (first, last) :: rest, n => if n < first then false else n ≤ last || inRanges rest n

/-- White space around numbers: blanks, tabs and line breaks. -/
def isSpace (c : Char) : Bool :=
  let n := c.toNat
  (9 ≤ n && n ≤ 13) || n == 32 || n == 0x85 || n == 0xA0 || n == 0x1680 ||
    (0x2000 ≤ n && n ≤ 0x200A) || n == 0x2028 || n == 0x2029 || n == 0x202F || n == 0x205F ||
    n == 0x3000

/-- White space around words, which the separators of files, groups, records and units are too. -/
def isBlank (c : Char) : Bool := (28 ≤ c.toNat && c.toNat ≤ 31) || isSpace c

/-- Characters after which a new line starts. A carriage return and a line feed in this order
break once. -/
def isLineBreak (c : Char) : Bool :=
  let n := c.toNat
  (10 ≤ n && n ≤ 13) || (28 ≤ n && n ≤ 30) || n == 0x85 || n == 0x2028 || n == 0x2029

def isAsciiLetter (c : Char) : Bool :=
  ('a' ≤ c && c ≤ 'z') || ('A' ≤ c && c ≤ 'Z')

def isAsciiDigit (c : Char) : Bool := '0' ≤ c && c ≤ '9'

/-- Characters an identifier is made of: letters and numerals of any script, and the underscore. -/
def isWord (c : Char) : Bool :=
  if c.toNat < 128 then isAsciiLetter c || isAsciiDigit c || c == '_'
  else inRanges CharacterTables.word c.toNat

/-- The value of a decimal digit of any script. -/
def digitValue? (c : Char) : Option Nat :=
  if c.toNat < 128 then
    if isAsciiDigit c then some (c.toNat - '0'.toNat) else none
  else
    (CharacterTables.digitZeros.find? fun start => start ≤ c.toNat && c.toNat < start + 10).map
      (c.toNat - ·)

def isDigit (c : Char) : Bool := (digitValue? c).isSome

def isCased (c : Char) : Bool :=
  if c.toNat < 128 then isAsciiLetter c else inRanges CharacterTables.cased c.toNat

def isCaseIgnorable (c : Char) : Bool := inRanges CharacterTables.caseIgnorable c.toNat

end KotlinAudit.Text
