import KotlinAudit.Json.Basic

/-! The tokens of a data text. The text is read one character at a time; what has been read so far
of an unfinished token is kept in the mode. -/
namespace KotlinAudit.Json

inductive Token
  | beginArray | endArray | beginObject | endObject | colon | comma
  | text (value : String)
  /-- A name of a value or a number, as it is written. -/
  | word (word : List Char)

/-- What a reader accepts beyond the common notation. -/
structure Dialect where
  /-- How many arrays and objects may lie within each other. -/
  maxDepth : Nat
  /-- Whether an array or object without anything in it counts for the depth. -/
  countsEmpty : Bool
  /-- All fields with the same key are kept and not only the last one. -/
  keepsRepeated : Bool
  /-- Half a surrogate pair is read as the replacement character instead of being refused. -/
  replacesUnpaired : Bool

/-- Stored records: every field can be checked, and texts are well-formed. Of the library that reads records
(version 2.5 or a later one of its second version) it is relied on that it refuses what lies within more than
two hundred others, gives all fields of a repeated key to the check, and refuses half a surrogate pair. -/
def Dialect.record : Dialect := ⟨200, false, true, false⟩

/-- Documents from elsewhere. They are read by a reader that calls itself for every array and object. Its depth
is what the calls around it leave of a thousand; where more of them are under way, it is less. Half a
surrogate pair is no character here, so a document that writes one is read as if it wrote the replacement
character. -/
def Dialect.document : Dialect := ⟨986, true, false, true⟩

/-- The part of a token that has been read, its last character first. -/
inductive Mode
  | between
  | word (read : List Char)
  | quoted (units : List Nat)
  | escape (units : List Nat)
  | codeUnit (units : List Nat) (digits value : Nat)

def isHighHalf (n : Nat) : Bool := 0xD800 ≤ n && n < 0xDC00
def isLowHalf (n : Nat) : Bool := 0xDC00 ≤ n && n < 0xE000

/-- The text of code units in which escapes may have written the halves of surrogate pairs. -/
def ofUnits? (dialect : Dialect) : List Nat → Option (List Char)
  | [] => some []
  | high :: low :: rest =>
    if isHighHalf high && isLowHalf low then
      (ofUnits? dialect rest).map
        (Char.ofNat (0x10000 + (high - 0xD800) * 0x400 + (low - 0xDC00)) :: ·)
    else if isHighHalf high || isLowHalf high then
      if dialect.replacesUnpaired then (ofUnits? dialect (low :: rest)).map ('\uFFFD' :: ·) else none
    else (ofUnits? dialect (low :: rest)).map (Char.ofNat high :: ·)
  | [unit] =>
    if isHighHalf unit || isLowHalf unit then
      if dialect.replacesUnpaired then some ['\uFFFD'] else none
    else some [Char.ofNat unit]

def hexDigit? (c : Char) : Option Nat :=
  if '0' ≤ c && c ≤ '9' then some (c.toNat - 48)
  else if 'a' ≤ c && c ≤ 'f' then some (c.toNat - 87)
  else if 'A' ≤ c && c ≤ 'F' then some (c.toNat - 55)
  else none

def escaped? : Char → Option Nat
  | '"' => some 34
  | '\\' => some 92
  | '/' => some 47
  | 'b' => some 8
  | 'f' => some 12
  | 'n' => some 10
  | 'r' => some 13
  | 't' => some 9
  | _ => none

/-- One character between tokens. -/
def begin (c : Char) : List Token × Mode :=
  match c with
  | ' ' | '\n' | '\r' | '\t' => ([], .between)
  | '[' => ([.beginArray], .between)
  | ']' => ([.endArray], .between)
  | '\x7b' => ([.beginObject], .between)
  | '\x7d' => ([.endObject], .between)
  | ':' => ([.colon], .between)
  | ',' => ([.comma], .between)
  | '"' => ([], .quoted [])
  | c => ([], .word [c])

def endsWord (c : Char) : Bool :=
  c == ' ' || c == '\n' || c == '\r' || c == '\t' || c == '[' || c == ']' || c == '\x7b' ||
    c == '\x7d' || c == ':' || c == ',' || c == '"'

/-- Reads one more character: the tokens that it completes, and what has been read of the next. -/
def Mode.next? (dialect : Dialect) (c : Char) : Mode → Option (List Token × Mode)
  | between => some (begin c)
  | word read =>
    if endsWord c then
      let (tokens, mode) := begin c
      some (.word read.reverse :: tokens, mode)
    else some ([], word (c :: read))
  | quoted units =>
    if c == '"' then
      (ofUnits? dialect units.reverse).map fun chars => ([.text (String.ofList chars)], between)
    else if c == '\\' then some ([], escape units)
    else if c.toNat < 32 then none
    else some ([], quoted (c.toNat :: units))
  | escape units =>
    if c == 'u' then some ([], codeUnit units 0 0)
    else (escaped? c).map fun unit => ([], quoted (unit :: units))
  | codeUnit units digits value =>
    (hexDigit? c).map fun digit =>
      let value := 16 * value + digit
      if digits = 3 then ([], quoted (value :: units)) else ([], codeUnit units (digits + 1) value)

/-- The tokens that the end of the text completes. -/
def Mode.last? : Mode → Option (List Token)
  | between => some []
  | word read => some [.word read.reverse]
  | _ => none

end KotlinAudit.Json
