import KotlinAudit.Decimal.Binary64
import KotlinAudit.Text.Character
import KotlinAudit.Text.Scan

/-! Reading numerals: those of data files, integers as people write them, and numbers in quoted texts of
data files, which may be written more freely than bare ones. -/
namespace KotlinAudit.Decimal

/-- The number that a run of digits stands for in base ten; other characters count as zero. -/
def natOfDigits (digits : List Char) : Nat :=
  digits.foldl (fun value c => 10 * value + (Text.digitValue? c).getD 0) 0

/-- The most digits that an integer may be written with. -/
def maxDigits : Nat := 4300

def spanDigits (text : List Char) : List Char × List Char := text.span Text.isAsciiDigit

/-- A number in the notation of data files: an integer keeps its exact value, and a fraction or an
exponent makes the nearest binary number. -/
inductive Numeral
  | whole (value : Int)
  | fractional (value : Binary64)

/-- The exponent part of a numeral, zero where there is none. -/
def exponent? : List Char → Option Int
  | [] => some 0
  | e :: rest =>
    if e != 'e' && e != 'E' then none
    else
      let (negative, digits) := match rest with
        | '-' :: digits => (true, digits)
        | '+' :: digits => (false, digits)
        | digits => (false, digits)
      if digits.isEmpty || !digits.all Text.isAsciiDigit then none
      else
        let value : Int := natOfDigits digits
        some (if negative then -value else value)

/-- Reads a whole text as a numeral: no leading zeros, digits on both sides of a point. -/
def Numeral.read? (text : List Char) : Option Numeral :=
  let (negative, magnitude) := match text with
    | '-' :: rest => (true, rest)
    | rest => (false, rest)
  let (front, rest) := spanDigits magnitude
  match front, rest with
  | [], _ => none
  | '0' :: _ :: _, _ => none
  | _, [] =>
    let value : Int := natOfDigits front
    some (.whole (if negative then -value else value))
  | _, '.' :: rest =>
    let (fraction, rest) := spanDigits rest
    if fraction.isEmpty then none
    else (exponent? rest).map fun exponent =>
      .fractional (.ofDecimal negative (natOfDigits (front ++ fraction)) (exponent - fraction.length))
  | _, rest => (exponent? rest).map fun exponent =>
      .fractional (.ofDecimal negative (natOfDigits front) exponent)

/-! ### Integers as people write them

Blanks around, a sign, digits of any script, and single underscores between digits. -/

/-- Digits in which an underscore may stand between two of them. -/
def groupedDigits? : List Char → Option (List Char)
  | [] => none
  | [c] => if Text.isDigit c then some [c] else none
  | c :: '_' :: rest => if Text.isDigit c then (groupedDigits? rest).map (c :: ·) else none
  | c :: rest => if Text.isDigit c then (groupedDigits? rest).map (c :: ·) else none

/-- The integer that a text stands for; texts with too many digits stand for none. -/
def integer? (text : List Char) : Option Int :=
  let (negative, digits) := match Text.trimBy Text.isSpace text with
    | '-' :: rest => (true, rest)
    | '+' :: rest => (false, rest)
    | rest => (false, rest)
  match groupedDigits? digits with
  | none => none
  | some digits =>
    if maxDigits < digits.length then none
    else
      let value : Int := natOfDigits digits
      some (if negative then -value else value)

/-! ### Numbers in quoted texts -/

/-- The text without its underscores, none unless each of them stands alone inside the text. -/
def withoutUnderscores? (text : List Char) : Option (List Char) :=
  let parts := Text.splitAll (· == '_') text
  if parts.length ≤ 1 || parts.any List.isEmpty then none else some parts.flatten

/-- An integer without zeros in front and without a plus sign. -/
def bareInteger? (text : List Char) : Option Int :=
  if maxDigits < text.countP Text.isAsciiDigit then none
  else match Numeral.read? text with
    | some (.whole value) => some value
    | _ => none

/-- What is left of a number behind the zeros that it starts with, among which underscores may
stand. The number goes on with another digit or with a minus sign; before a point and at the end
the character in front of it is kept. -/
def withoutZeros? : List Char → Option (List Char)
  | [] => none
  | first :: rest =>
    let goesOn (c : Char) : Bool := c == '-' || ('1' ≤ c && c ≤ '9')
    if goesOn first then some (first :: rest)
    else if first != '0' then none
    else
      let skipped := rest.takeWhile fun c => c == '0' || c == '_'
      let last := skipped.getLast?.getD first
      match rest.drop skipped.length with
      | [] => some [last]
      | c :: more =>
        if goesOn c then some (c :: more) else if c == '.' then some (last :: c :: more) else none

/-- The text before a fraction that is zero. -/
def withoutZeroFraction (text : List Char) : List Char :=
  let (front, fraction) := text.span (· != '.')
  if (fraction.drop 1).all (· == '0') then front else text

/-- A bare integer for a quoted text that is none; no text for one that stays as it is. -/
def cleaned? (text : List Char) : Option (List Char) := do
  let magnitude ← match Text.trimBy Text.isSpace text with
    | '+' :: '-' :: _ => none
    | '+' :: rest => some rest
    | rest => some rest
  let number := withoutZeroFraction (← withoutZeros? magnitude)
  match withoutUnderscores? number with
  | some number => some number
  | none => if number.length = text.length then none else some number

/-- An integer with white space around it, a sign, zeros in front and a fraction if that is zero. -/
def quotedInteger? (text : List Char) : Option Int :=
  (bareInteger? text).or ((cleaned? text).bind bareInteger?)

private def splitSign : List Char → Bool × List Char
  | '-' :: rest => (true, rest)
  | '+' :: rest => (false, rest)
  | rest => (false, rest)

private def exponentOf? : List Char → Option Int
  | [] => some 0
  | e :: rest =>
    let (negative, digits) := splitSign rest
    if (e != 'e' && e != 'E') || digits.isEmpty || !digits.all Text.isAsciiDigit then none
    else
      let value : Int := natOfDigits digits
      some (if negative then -value else value)

/-- A binary number with a sign; digits may be missing on one side of a point, and the words for
infinity and for no number count too. -/
def binary? (text : List Char) : Option Binary64 :=
  let (negative, magnitude) := splitSign text
  let word := String.ofList (magnitude.map Char.toLower)
  if word == "inf" || word == "infinity" then some (.infinite negative)
  else if word == "nan" then some .nan
  else
    let (front, rest) := spanDigits magnitude
    let (fraction, rest) := match rest with
      | '.' :: rest => spanDigits rest
      | rest => ([], rest)
    if front.isEmpty && fraction.isEmpty then none
    else (exponentOf? rest).map fun exponent =>
      .ofDecimal negative (natOfDigits (front ++ fraction)) (exponent - fraction.length)

/-- A binary number with white space around it, or else one with underscores inside it. -/
def quotedFloat? (text : List Char) : Option Binary64 :=
  (binary? (Text.trimBy Text.isSpace text)).or ((withoutUnderscores? text).bind binary?)

end KotlinAudit.Decimal
