import KotlinAudit.Decimal.Numeral
import KotlinAudit.Pattern.Search
import KotlinAudit.Setting.Basic
import KotlinAudit.Toml.Quoted

/-! Values of a settings file that have no quotes and no parts: truth values, numbers, dates and
times. -/
namespace KotlinAudit.Toml

open Decimal (Binary64)

namespace Patterns

open Pattern

private def range (first last : Char) : Pattern := char fun c => first ≤ c && c ≤ last

private def decimal : Pattern := range '0' '9'

/-- Digits of some kind, with single underscores between them. -/
private def grouped (digit : Pattern) : Pattern := seq digit (many (seq (optional (only '_')) digit))

private def hex : Pattern :=
  char fun c => Text.isAsciiDigit c || ('a' ≤ c && c ≤ 'f') || ('A' ≤ c && c ≤ 'F')

private def signs : Pattern := optional (among "+-")

private def decimalRest : Pattern := many (seq (optional (only '_')) decimal)

/-- An integer in base sixteen, two or eight. -/
def based : Pattern :=
  seq (only '0') (oneOf [seq (only 'x') (grouped hex), seq (only 'b') (grouped (range '0' '1')),
    seq (only 'o') (grouped (range '0' '7'))])

/-- An integer or a fraction in base ten; group 1 holds what makes it a fraction. -/
def number : Pattern :=
  all [signs, either (only '0') (seq (range '1' '9') decimalRest),
    capture 1 (seq (optional (seq (only '.') (grouped decimal)))
      (optional (all [among "eE", signs, grouped decimal])))]

def time : Pattern :=
  all [either (seq (range '0' '1') decimal) (seq (only '2') (range '0' '3')), only ':',
    range '0' '5', decimal, only ':', range '0' '5', decimal,
    optional (all [only '.', repeated true 1 (some 6) decimal, many decimal])]

/-- A date with or without a time; groups 1 to 3 hold year, month and day. -/
def date : Pattern :=
  all [capture 1 (times 4 decimal), only '-',
    capture 2 (either (seq (only '0') (range '1' '9')) (seq (only '1') (range '0' '2'))), only '-',
    capture 3 (oneOf [seq (only '0') (range '1' '9'), seq (range '1' '2') decimal,
      seq (only '3') (range '0' '1')]),
    optional (all [among "Tt ", time,
      optional (either (among "Zz")
        (all [among "+-", either (seq (range '0' '1') decimal) (seq (only '2') (range '0' '3')),
          only ':', range '0' '5', decimal]))])]

end Patterns

def daysIn (year month : Nat) : Nat :=
  if month = 2 then
    if (year % 4 = 0 && year % 100 != 0) || year % 400 = 0 then 29 else 28
  else if month = 4 || month = 6 || month = 9 || month = 11 then 30
  else 31

private def digitOf (c : Char) : Nat :=
  if Text.isAsciiDigit c then c.toNat - 48
  else if 'a' ≤ c && c ≤ 'f' then c.toNat - 87
  else c.toNat - 55

/-- The value of digits in a base, underscores left out. -/
private def inBase (base : Nat) (digits : List Char) : Nat :=
  (digits.filter (· != '_')).foldl (fun value c => value * base + digitOf c) 0

private def basedValue : List Char → Nat
  | '0' :: 'x' :: digits => inBase 16 digits
  | '0' :: 'b' :: digits => inBase 2 digits
  | _ :: _ :: digits => inBase 8 digits
  | _ => 0

private def integer (text : List Char) : Except Fault Int :=
  let (negative, digits) := match text with
    | '-' :: rest => (true, rest)
    | '+' :: rest => (false, rest)
    | rest => (false, rest)
  let digits := digits.filter (· != '_')
  if Decimal.maxDigits < digits.length then .error .tooManyDigits
  else
    let value : Int := Decimal.natOfDigits digits
    .ok (if negative then -value else value)

def words : List (String × Json) :=
  [("true", .bool true), ("false", .bool false)]

def floatWords : List (String × Json) :=
  [("inf", .float (.infinite false)), ("nan", .float .nan), ("-inf", .float (.infinite true)),
    ("+inf", .float (.infinite false)), ("-nan", .float .nan), ("+nan", .float .nan)]

def word? (words : List (String × Json)) (text : List Char) : Option (Setting × List Char) :=
  (words.find? fun (word, _) => word.toList.isPrefixOf text).map fun (word, value) =>
    (.plain value, text.drop word.length)

private def isDate (found : Cursor) : Bool :=
  let part (group : Nat) : Nat := Decimal.natOfDigits (found.group group)
  0 < part 1 && part 3 ≤ daysIn (part 1) (part 2)

/-- The value at the start of a text. Dates and times go before numbers, which they start like. -/
def plain (text : List Char) : Step Setting :=
  match word? words text with
  | some found => .ok found
  | none =>
    match Patterns.date.matchStart? text with
    | some found => if isDate found then .ok (.moment, found.after) else .error .malformed
    | none =>
      match Patterns.time.matchStart? text, Patterns.based.matchStart? text,
          Patterns.number.matchStart? text with
      | some found, _, _ => .ok (.moment, found.after)
      | none, some found, _ =>
        .ok (.plain (.int (basedValue (found.since (.start text)))), found.after)
      | none, none, some found =>
        let written := found.since (.start text)
        if (found.group 1).isEmpty then
          (integer written).map fun value => (.plain (.int value), found.after)
        else
          match Decimal.quotedFloat? written with
          | some value => .ok (.plain (.float value), found.after)
          | none => .error .malformed
      | none, none, none =>
        match word? floatWords text with
        | some found => .ok found
        | none => .error .malformed

end KotlinAudit.Toml
