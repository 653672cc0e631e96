import KotlinAudit.Decimal.Binary64
import KotlinAudit.Decimal.Numeral
import KotlinAudit.Shell.Arithmetic
import KotlinAudit.Shell.Basic
import KotlinAudit.Text.Scan

/-! Texts with escapes, and formats that say how arguments are written. A shell and the programs
beside it know different escapes and have different words for what is wrong. -/
namespace KotlinAudit.Shell

/-- Who writes a text: a shell itself, or a program beside it. -/
inductive Writer
  | shell | program
deriving DecidableEq, Repr

def message (text : String) : List Char := octetsOf text.toList

def inQuotes (octets : List Char) : List Char := message "‘" ++ octets ++ message "’"

namespace Format

private def isOctal (c : Char) : Bool := '0' ≤ c && c ≤ '7'

private def isHexDigit (c : Char) : Bool :=
  Text.isAsciiDigit c || ('a' ≤ c && c ≤ 'f') || ('A' ≤ c && c ≤ 'F')

private def hexValue (digits : List Char) : Nat :=
  digits.foldl (fun value c =>
    let n := c.toNat
    value * 16 + (if n < 58 then n - 48 else if n < 97 then n - 55 else n - 87)) 0

private def octalValue (digits : List Char) : Nat :=
  digits.foldl (fun value c => value * 8 + (c.toNat - 48)) 0

private def letter? : Char → Option Char
  | 'n' => some '\n'
  | 't' => some '\t'
  | 'r' => some '\r'
  | 'a' => some '\x07'
  | 'b' => some '\x08'
  | 'e' => some '\x1b'
  | 'f' => some '\x0c'
  | 'v' => some '\x0b'
  | '\\' => some '\\'
  | _ => none

/-- What an escape stands for, where `rest` follows the backslash, and how many characters of it are
used up. In arguments, an octal number has a zero in front that is no digit. -/
def escape (writer : Writer) (inArgument : Bool) (rest : List Char) : List Char × Nat :=
  let octal (skipped : Nat) : List Char × Nat :=
    let digits := ((rest.drop skipped).takeWhile isOctal).take 3
    ([Char.ofNat (octalValue digits % 256)], skipped + digits.length)
  let hex (kind : Char) (most : Nat) : List Char × Nat :=
    let digits := ((rest.drop 1).takeWhile isHexDigit).take most
    if digits.isEmpty then (['\\', kind], 1)
    else
      let value := hexValue digits
      (if kind == 'x' then [Char.ofNat value] else octetsOf [Char.ofNat value], 1 + digits.length)
  match rest with
  | [] => (['\\'], 0)
  | c :: more =>
    match letter? c with
    | some found => ([found], 1)
    | none =>
      if c == '0' && inArgument && (more.head?.map isOctal).getD false then octal 1
      else if isOctal c then octal 0
      else if writer == .program && c == 'x' then hex 'x' 2
      else if writer == .program && c == 'u' then hex 'u' 4
      else if writer == .program && c == 'U' then hex 'U' 8
      else if writer == .program && c == '"' then (['"'], 1)
      else (['\\', c], 1)

/-- A text with its escapes followed, and whether an escape has ended all writing. -/
def unescaped (writer : Writer) : Nat → List Char → List Char × Bool
  | 0, text => (text, false)
  | steps + 1, text =>
    let (plain, rest) := text.span (· != '\\')
    match rest with
    | [] => (plain, false)
    | _ :: 'c' :: _ => (plain, true)
    | _ :: after =>
      let (found, count) := escape writer true after
      let (more, isOver) := unescaped writer steps (after.drop count)
      (plain ++ found ++ more, isOver)

/-- How an argument is written: its sign, its widths and the letter of its kind. -/
structure Directive where
  flags : List Char
  width : Nat
  precision : Option Nat
  kind : Char
deriving Repr

private def filled (directive : Directive) (text : List Char) : List Char :=
  let gap := directive.width - text.length
  if directive.flags.contains '-' then text ++ List.replicate gap ' '
  else List.replicate gap ' ' ++ text

/-- A number with its sign and zeros in front. -/
private def number (directive : Directive) (sign digits : List Char) : List Char :=
  let digits := match directive.precision with
    | some least => List.replicate (least - digits.length) '0' ++ digits
    | none => digits
  let isZeroFilled := directive.flags.contains '0' && !directive.flags.contains '-' &&
    directive.precision.isNone
  if isZeroFilled then
    sign ++ List.replicate (directive.width - sign.length - digits.length) '0' ++ digits
  else filled directive (sign ++ digits)

private def signOf (directive : Directive) (negative : Bool) : List Char :=
  if negative then ['-']
  else if directive.flags.contains '+' then ['+']
  else if directive.flags.contains ' ' then [' ']
  else []

inductive NumberFault
  | notNumeric
  | notWhole
deriving DecidableEq, Repr

/-- The integer at the start of an argument. A quote before a character makes its number. -/
def integerOf (argument : List Char) : Int × Option NumberFault :=
  match argument with
  | [] => (0, none)
  | quote :: c :: _ =>
    if quote == '\'' || quote == '"' then (c.toNat, none) else plain argument
  | _ => plain argument
where
  plain (text : List Char) : Int × Option NumberFault :=
    let text := text.dropWhile Text.isSpace
    let (negative, digits) := match text with
      | '-' :: rest => (true, rest)
      | '+' :: rest => (false, rest)
      | rest => (false, rest)
    let (value, count) := Expression.numberAt digits
    let value := if negative then -value else value
    if count == 0 then (0, some .notNumeric)
    else (value, if (digits.drop count).isEmpty then none else some .notWhole)

private def floatOf (argument : List Char) : Decimal.Binary64 × Option NumberFault :=
  let numeral := argument.takeWhile fun c => Text.isAsciiDigit c || ".eE+-".toList.contains c
  let isDotted := numeral.head? == some '.'
  match Decimal.Numeral.read? (if isDotted then '0' :: numeral else numeral) with
  | some (.whole value) => (.ofRat value, if numeral.length == argument.length then none else some .notWhole)
  | some (.fractional value) =>
    (value, if numeral.length == argument.length then none else some .notWhole)
  | none => (.zero, if argument.isEmpty then none else some .notNumeric)

private def reaches (num den : Nat) (power : Int) : Bool :=
  if 0 ≤ power then decide (den * Nat.pow 10 power.toNat ≤ num)
  else decide (den ≤ num * Nat.pow 10 (-power).toNat)

/-- A quotient rounded to one digit before the point and some behind it, as the whole number of all
digits, with its power of ten. -/
private def normalized (places num den : Nat) : Nat × Int :=
  if num == 0 then (0, 0)
  else
    let guess : Int := (toString num).length - (toString den).length
    let power := if reaches num den guess then guess else guess - 1
    let shift : Int := places - power
    let digits := Decimal.roundedQuotient (num * Nat.pow 10 shift.toNat) (den * Nat.pow 10 (-shift).toNat)
    if digits == Nat.pow 10 (places + 1) then (digits / 10, power + 1) else (digits, power)

private def withoutLastZeros (digits : List Char) : List Char :=
  if digits.contains '.' then Text.trimRight (· == '.') (Text.trimRight (· == '0') digits) else digits

/-- A binary number without its sign: with fixed places, with a power of ten, or in the shorter of
both ways. -/
private def digitsOf (kind : Char) (places : Nat) (keepsZeros : Bool) (value : Decimal.Binary64) :
    List Char :=
  match value.abs.toRat? with
  | none => (value.abs.toFixed 0).toList
  | some magnitude =>
    let num := magnitude.num.natAbs
    let fixed (places : Nat) : List Char := (value.abs.toFixed places).toList
    let powered (places : Nat) (trims : Bool) : List Char :=
      let (digits, power) := normalized places num magnitude.den
      let shown := (Decimal.placed places digits).toList
      let exponent := (toString power.natAbs).toList
      (if trims then withoutLastZeros shown else shown) ++ ['e', if power < 0 then '-' else '+'] ++
        List.replicate (2 - exponent.length) '0' ++ exponent
    match kind.toLower with
    | 'f' => fixed places
    | 'e' => powered places false
    | _ =>
      let digits := max places 1
      let power := (normalized (digits - 1) num magnitude.den).2
      if -4 ≤ power && power < digits then
        let shown := fixed (digits - 1 - power).toNat
        if keepsZeros then shown else withoutLastZeros shown
      else powered (digits - 1) !keepsZeros

private def digitsToBase (base : Nat) (upper : Bool) (n : Nat) : List Char :=
  let digits := Nat.toDigits base n
  if upper then digits.map Char.toUpper else digits

def Directive.write (writer : Writer) (directive : Directive) (argument : List Char) :
    List Char × Option NumberFault × Bool :=
  let plain (text : List Char) : List Char × Option NumberFault × Bool := (text, none, false)
  let unsigned (base : Nat) (upper : Bool) : List Char × Option NumberFault × Bool :=
    let (value, fault) := integerOf argument
    let n := (value % (Nat.pow 2 64 : Nat)).toNat
    let sign := if directive.flags.contains '#' && n != 0 then
        (if base == 16 then (if upper then ['0', 'X'] else ['0', 'x']) else ['0']) else []
    (number directive sign (digitsToBase base upper n), fault, false)
  match directive.kind with
  | 's' => plain (filled directive
      (match directive.precision with
        | some most => argument.take most
        | none => argument))
  | 'b' =>
    let (text, isOver) := unescaped writer (argument.length + 1) argument
    (filled directive (match directive.precision with
        | some most => text.take most
        | none => text), none, isOver)
  | 'c' => plain (filled directive (argument.take 1))
  | 'd' | 'i' =>
    let (value, fault) := integerOf argument
    (number directive (signOf directive (value < 0)) (toString value.natAbs).toList, fault, false)
  | 'u' =>
    let (value, fault) := integerOf argument
    let n := (value % (Nat.pow 2 64 : Nat)).toNat
    (number directive [] (toString n).toList, fault, false)
  | 'o' => unsigned 8 false
  | 'x' => unsigned 16 false
  | 'X' => unsigned 16 true
  | _ =>
    let (value, fault) := floatOf argument
    let text :=
      digitsOf directive.kind (directive.precision.getD 6) (directive.flags.contains '#') value
    let text := if directive.kind.isUpper then text.map Char.toUpper else text
    let plain := { directive with precision := none }
    (number plain (signOf directive value.isNegative) text, fault, false)

/-- What is left after one use of a format. -/
structure Written where
  text : List Char
  /-- The arguments that have not been written. -/
  left : List (List Char)
  /-- What is wrong, in the order in which it is said. -/
  faults : List (List Char × NumberFault)
  /-- A directive of which there is no such kind, as it is written. -/
  unknown : Option (List Char)
  isOver : Bool

private def kinds : List Char := "sbcdiuoxXfFeEgG".toList

/-- A format used once. Missing arguments are empty. -/
def writtenOnce (writer : Writer) : Nat → List Char → List (List Char) → Written
  | 0, _, arguments => ⟨[], arguments, [], none, false⟩
  | steps + 1, format, arguments =>
    let follow (text : List Char) (rest : List Char) (left : List (List Char)) : Written :=
      let more := writtenOnce writer steps rest left
      { more with text := text ++ more.text }
    match format with
    | [] => ⟨[], arguments, [], none, false⟩
    | '\\' :: rest =>
      if rest.head? == some 'c' && writer == .program then ⟨[], arguments, [], none, true⟩
      else
        let (found, count) := escape writer false rest
        follow found (rest.drop count) arguments
    | '%' :: '%' :: rest => follow ['%'] rest arguments
    | '%' :: rest =>
      let flags := rest.takeWhile fun c => "-+ #0".toList.contains c
      let after := rest.drop flags.length
      let star (after : List Char) (arguments : List (List Char)) : Int × List Char × List (List Char) :=
        match after with
        | '*' :: rest => ((integerOf (arguments.headD [])).1, rest, arguments.tail)
        | after =>
          let digits := after.takeWhile Text.isAsciiDigit
          (Decimal.natOfDigits digits, after.drop digits.length, arguments)
      let (width, after, arguments) := star after arguments
      let flags := if width < 0 then '-' :: flags else flags
      let (precision, after, arguments) : Option Nat × List Char × List (List Char) := match after with
        | '.' :: after =>
          let (precision, after, arguments) := star after arguments
          (some precision.toNat, after, arguments)
        | after => (none, after, arguments)
      let after := if writer == .program then after.dropWhile "hlLjtz".toList.contains else after
      match after with
      | kind :: rest =>
        if kinds.contains kind then
          let argument := arguments.headD []
          let (text, fault, isOver) :=
            Directive.write writer ⟨flags, width.natAbs, precision, kind⟩ argument
          if isOver then ⟨text, arguments.tail, [], none, true⟩
          else
            let more := follow text rest arguments.tail
            { more with faults := (fault.toList.map fun fault => (argument, fault)) ++ more.faults }
        else ⟨[], arguments, [], some (format.take (format.length - rest.length)), false⟩
      | [] => ⟨[], arguments, [], some format, false⟩
    | c :: rest => follow [c] rest arguments

/-- A format used again and again while there are arguments left and it takes any. -/
def written (writer : Writer) (format : List Char) : Nat → List (List Char) → Written
  | 0, arguments => ⟨[], arguments, [], none, false⟩
  | steps + 1, arguments =>
    let once := writtenOnce writer (format.length + 1) format arguments
    if once.isOver || once.unknown.isSome || once.left.isEmpty ||
      once.left.length == arguments.length then once
    else
      let more := written writer format steps once.left
      { more with text := once.text ++ more.text, faults := once.faults ++ more.faults }

end Format
end KotlinAudit.Shell
