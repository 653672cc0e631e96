import KotlinAudit.Decimal.Shortest
import KotlinAudit.Json.Basic
import KotlinAudit.Text.Quoted

/-! Writing values, on one line or indented. Texts keep every character that need not be escaped. This is the
form in which the library of records writes them (version 2.5 or a later one of its second version). What is
relied on of it: no blanks on one line, two blanks for a level and a blank behind a colon otherwise, characters
beyond the basic ones as they are, the shortest digits of a binary number, and `null` for what is no finite
number. -/
namespace KotlinAudit.Json

def hexChar (n : Nat) : Char := if n < 10 then Char.ofNat (48 + n) else Char.ofNat (87 + n)

def escapeChar (c : Char) : List Char :=
  match c with
  | '"' => ['\\', '"']
  | '\\' => ['\\', '\\']
  | '\n' => ['\\', 'n']
  | '\r' => ['\\', 'r']
  | '\t' => ['\\', 't']
  | '\x08' => ['\\', 'b']
  | '\x0c' => ['\\', 'f']
  | c => if c.toNat < 32 then ['\\', 'u', '0', '0', hexChar (c.toNat / 16), hexChar (c.toNat % 16)]
    else [c]

def quoted (text : String) : List Char := '"' :: text.toList.flatMap escapeChar ++ ['"']

/-- The text of a value that has no parts; what is no finite number is written as missing. -/
def writtenFloat (value : Decimal.Binary64) : List Char :=
  if value.isFinite then (value.toShortest .dataFile).toList else "null".toList

mutual

/-- A value on one line without blanks. -/
def compact : Json → List Char
  | .null => "null".toList
  | .bool value => (if value then "true" else "false").toList
  | .int value => (toString value).toList
  | .float value => writtenFloat value
  | .text value => quoted value
  | .array items => '[' :: compactItems items
  | .object fields => '\x7b' :: compactFields fields

/-- The items of an array up to its closing bracket. -/
def compactItems : List Json → List Char
  | [] => [']']
  | [item] => compact item ++ [']']
  | item :: rest => compact item ++ ',' :: compactItems rest

def compactFields : List (String × Json) → List Char
  | [] => ['\x7d']
  | [(key, value)] => quoted key ++ ':' :: compact value ++ ['\x7d']
  | (key, value) :: rest => quoted key ++ ':' :: compact value ++ ',' :: compactFields rest

end

def newLine (depth : Nat) : List Char := '\n' :: List.replicate (2 * depth) ' '

mutual

/-- A value with every item and field on a line of its own, two blanks deeper than its parent. -/
def indented (depth : Nat) : Json → List Char
  | .array [] => ['[', ']']
  | .object [] => ['\x7b', '\x7d']
  | .array items => '[' :: indentedItems (depth + 1) items
  | .object fields => '\x7b' :: indentedFields (depth + 1) fields
  | .null => "null".toList
  | .bool value => (if value then "true" else "false").toList
  | .int value => (toString value).toList
  | .float value => writtenFloat value
  | .text value => quoted value

def indentedItems (depth : Nat) : List Json → List Char
  | [] => [']']
  | [item] => newLine depth ++ indented depth item ++ newLine (depth - 1) ++ [']']
  | item :: rest => newLine depth ++ indented depth item ++ ',' :: indentedItems depth rest

def indentedFields (depth : Nat) : List (String × Json) → List Char
  | [] => ['\x7d']
  | [(key, value)] =>
    newLine depth ++ quoted key ++ ':' :: ' ' :: indented depth value ++ newLine (depth - 1) ++
      ['\x7d']
  | (key, value) :: rest =>
    newLine depth ++ quoted key ++ ':' :: ' ' :: indented depth value ++
      ',' :: indentedFields depth rest

end

/-! ### Messages

Values as they appear in messages and identifiers. A text stands for itself, but inside an array or object it
is quoted. -/

mutual

/-- A value inside another one. -/
def inner : Json → List Char
  | .null => "None".toList
  | .bool value => (if value then "True" else "False").toList
  | .int value => (toString value).toList
  | .float value => (value.toShortest .message).toList
  | .text value => Text.quoted value.toList
  | .array items => '[' :: innerItems items
  | .object fields => '\x7b' :: innerFields fields

def innerItems : List Json → List Char
  | [] => [']']
  | [item] => inner item ++ [']']
  | item :: rest => inner item ++ ',' :: ' ' :: innerItems rest

def innerFields : List (String × Json) → List Char
  | [] => ['\x7d']
  | [(key, value)] => Text.quoted key.toList ++ ':' :: ' ' :: inner value ++ ['\x7d']
  | (key, value) :: rest =>
    Text.quoted key.toList ++ ':' :: ' ' :: inner value ++ ',' :: ' ' :: innerFields rest

end

/-- The text of a whole value. -/
def inMessage : Json → List Char
  | .text value => value.toList
  | value => inner value

end KotlinAudit.Json
