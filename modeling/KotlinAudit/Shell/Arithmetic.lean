import KotlinAudit.Shell.Script
import KotlinAudit.Text.Character

/-! Sums in scripts: integers of 64 bits, names of parameters, and operators that bind more or less
tightly. -/
namespace KotlinAudit.Shell

inductive Expression
  | number (value : Int)
  | parameter (name : List Char)
  | unary (sign : Char) (operand : Expression)
  | binary (operator : String) (left right : Expression)
  | choice (test yes no : Expression)
  | assign (name : List Char) (operator : String) (value : Expression)
deriving Repr, Inhabited

inductive ArithmeticFault
  | divisionByZero
  | expectingPrimary
  | expectingEnd
  | expectingBracket
  | expectingColon
  /-- The value of a parameter is no number. -/
  | illegalNumber (value : List Char)
deriving DecidableEq, Repr

def ArithmeticFault.message (expression : List Char) (fault : ArithmeticFault) : String :=
  let within (what : String) : String :=
    "arithmetic expression: " ++ what ++ ": \"" ++ String.ofList expression ++ "\""
  match fault with
  | divisionByZero => within "division by zero"
  | expectingPrimary => within "expecting primary"
  | expectingEnd => within "expecting EOF"
  | expectingBracket => within "expecting ')'"
  | expectingColon => within "expecting ':'"
  | illegalNumber value => "Illegal number: " ++ String.ofList value

namespace Expression

inductive Token
  | number (value : Int)
  | parameter (name : List Char)
  | sign (text : String)
deriving DecidableEq, Repr

/-- The value within 64 bits. -/
def wrapped (value : Int) : Int := Int.bmod value (Nat.pow 2 64)

private def digitsValue (base : Nat) (digits : List Char) : Int :=
  let value := digits.foldl (fun (value : Nat) c =>
    let n := c.toNat
    value * base + (if n < 58 then n - 48 else if n < 97 then n - 55 else n - 87)) 0
  (value : Int)

private def isHexDigit (c : Char) : Bool :=
  Text.isAsciiDigit c || ('a' ≤ c && c ≤ 'f') || ('A' ≤ c && c ≤ 'F')

/-- The number at the start of a text, and how many characters it takes. A leading zero makes it
octal, and `0x` hexadecimal. -/
def numberAt (text : List Char) : Int × Nat :=
  let octal (text : List Char) : Int × Nat :=
    let digits := text.takeWhile fun c => '0' ≤ c && c ≤ '7'
    (digitsValue 8 digits, digits.length)
  match text with
  | '0' :: x :: rest =>
    let digits := rest.takeWhile isHexDigit
    if (x == 'x' || x == 'X') && !digits.isEmpty then (digitsValue 16 digits, digits.length + 2)
    else octal text
  | '0' :: _ => octal text
  | _ =>
    let digits := text.takeWhile Text.isAsciiDigit
    (digitsValue 10 digits, digits.length)

/-- The number that a whole text stands for, none if it does not stand for one. -/
def numberOf? (text : List Char) : Option Int :=
  let text := text.dropWhile Text.isSpace
  let (negative, digits) := match text with
    | '-' :: rest => (true, rest)
    | '+' :: rest => (false, rest)
    | rest => (false, rest)
  let (value, count) := numberAt digits
  if text.isEmpty then some 0
  else if count == 0 || !(digits.drop count).all Text.isSpace then none
  else some (if negative then -value else value)

/-- Signs of operators, longer ones first. -/
private def signs : List String :=
  ["<<=", ">>=", "<<", ">>", "<=", ">=", "==", "!=", "&&", "||", "+=", "-=", "*=", "/=", "%=", "&=",
    "|=", "^=", "+", "-", "*", "/", "%", "<", ">", "=", "!", "~", "&", "|", "^", "(", ")", "?", ":"]

private def isNameStart (c : Char) : Bool := Text.isAsciiLetter c || c == '_'

def tokens : Nat → List Char → Except ArithmeticFault (List Token)
  | 0, _ => .ok []
  | steps + 1, text =>
    match text with
    | [] => .ok []
    | c :: rest =>
      if Text.isSpace c then tokens steps rest
      else if Text.isAsciiDigit c then
        let (value, count) := numberAt text
        (tokens steps (text.drop count)).map (.number (wrapped value) :: ·)
      else if isNameStart c then
        let name := text.takeWhile fun c => isNameStart c || Text.isAsciiDigit c
        (tokens steps (text.drop name.length)).map (.parameter name :: ·)
      else match signs.find? fun sign => sign.toList.isPrefixOf text with
        | some sign => (tokens steps (text.drop sign.length)).map (.sign sign :: ·)
        | none => .error .expectingEnd

/-- The operators with two operands; those of a later row bind more tightly. -/
private def rows : List (List String) :=
  [["||"], ["&&"], ["|"], ["^"], ["&"], ["==", "!="], ["<", "<=", ">", ">="], ["<<", ">>"], ["+", "-"],
    ["*", "/", "%"]]

private def assignments : List String :=
  ["=", "+=", "-=", "*=", "/=", "%=", "<<=", ">>=", "&=", "|=", "^="]

abbrev Parsed := Except ArithmeticFault (Expression × List Token)

mutual

/-- An assignment or a choice. -/
def whole? : Nat → List Token → Parsed
  | 0, _ => .error .expectingPrimary
  | steps + 1, tokens =>
    let choice : Parsed := do
      let (test, rest) ← chain? steps rows tokens
      match rest with
      | .sign "?" :: rest =>
        let (yes, rest) ← whole? steps rest
        match rest with
        | .sign ":" :: rest =>
          let (no, rest) ← whole? steps rest
          return (.choice test yes no, rest)
        | _ => .error .expectingColon
      | rest => return (test, rest)
    match tokens with
    | .parameter name :: .sign operator :: rest =>
      if assignments.contains operator then do
        let (value, rest) ← whole? steps rest
        return (.assign name ((operator.dropEnd 1).toString) value, rest)
      else choice
    | _ => choice

/-- Operands with operators of some rows between them. -/
def chain? : Nat → List (List String) → List Token → Parsed
  | 0, _, _ => .error .expectingPrimary
  | steps + 1, [], tokens => operand? steps tokens
  | steps + 1, row :: rows, tokens => do
    let (left, rest) ← chain? steps rows tokens
    more? steps row rows left rest

def more? : Nat → List String → List (List String) → Expression → List Token → Parsed
  | 0, _, _, _, _ => .error .expectingPrimary
  | steps + 1, row, rows, left, tokens =>
    match tokens with
    | .sign operator :: rest =>
      if row.contains operator then do
        let (right, rest) ← chain? steps rows rest
        more? steps row rows (.binary operator left right) rest
      else .ok (left, tokens)
    | _ => .ok (left, tokens)

def operand? : Nat → List Token → Parsed
  | 0, _ => .error .expectingPrimary
  | steps + 1, tokens =>
    match tokens with
    | .number value :: rest => .ok (.number value, rest)
    | .parameter name :: rest => .ok (.parameter name, rest)
    | .sign "(" :: rest => do
      let (inner, rest) ← whole? steps rest
      match rest with
      | .sign ")" :: rest => return (inner, rest)
      | _ => .error .expectingBracket
    | .sign sign :: rest =>
      if ["+", "-", "!", "~"].contains sign then do
        let (operand, rest) ← operand? steps rest
        return (.unary (sign.toList.headD '+') operand, rest)
      else .error .expectingPrimary
    | [] => .error .expectingPrimary

end

def read (text : List Char) : Except ArithmeticFault Expression := do
  let found ← tokens (text.length + 1) text
  let (expression, rest) ← whole? (16 * found.length + 16) found
  if rest.isEmpty then return expression else .error .expectingEnd

private def truth (value : Bool) : Int := if value then 1 else 0

/-- The octets of a number in two's complement, as a natural number. -/
private def bits (value : Int) : Nat := (value % (Nat.pow 2 64 : Nat)).toNat

private def binaryValue (operator : String) (x y : Int) : Except ArithmeticFault Int :=
  match operator with
  | "|" => .ok (bits x ||| bits y : Nat)
  | "^" => .ok (bits x ^^^ bits y : Nat)
  | "&" => .ok (bits x &&& bits y : Nat)
  | "==" => .ok (truth (x == y))
  | "!=" => .ok (truth (x != y))
  | "<" => .ok (truth (x < y))
  | "<=" => .ok (truth (x ≤ y))
  | ">" => .ok (truth (x > y))
  | ">=" => .ok (truth (x ≥ y))
  | "<<" => .ok (x * (Nat.pow 2 ((y % 64).toNat) : Nat))
  | ">>" => .ok (Int.fdiv x (Nat.pow 2 ((y % 64).toNat) : Nat))
  | "+" => .ok (x + y)
  | "-" => .ok (x - y)
  | "*" => .ok (x * y)
  | "/" => if y == 0 then .error .divisionByZero else .ok (x.tdiv y)
  | "%" => if y == 0 then .error .divisionByZero else .ok (x.tmod y)
  | _ => .ok y

abbrev Values := List (List Char × List Char)

private def valueOf (values : Values) (name : List Char) : Except ArithmeticFault Int :=
  let text := (values.lookup name).getD []
  match numberOf? text with
  | some value => .ok (wrapped value)
  | none => .error (.illegalNumber text)

/-- The value of a sum, and the values that it has changed, the newest first. -/
def eval (values : Values) : Expression → Except ArithmeticFault (Int × Values)
  | .number value => .ok (value, values)
  | .parameter name => (valueOf values name).map (·, values)
  | .unary sign operand => do
    let (value, values) ← eval values operand
    let result := match sign with
      | '-' => -value
      | '!' => truth (value == 0)
      | '~' => -value - 1
      | _ => value
    return (wrapped result, values)
  | .binary operator left right => do
    let (x, values) ← eval values left
    if operator == "&&" && x == 0 then return (0, values)
    if operator == "||" && x != 0 then return (1, values)
    let (y, values) ← eval values right
    if operator == "&&" || operator == "||" then return (truth (y != 0), values)
    return (wrapped (← binaryValue operator x y), values)
  | .choice test yes no => do
    let (value, values) ← eval values test
    if value != 0 then eval values yes else eval values no
  | .assign name operator value => do
    let (right, values) ← eval values value
    let result ← if operator.isEmpty then .ok right
      else do binaryValue operator (← valueOf values name) right
    let result := wrapped result
    return (result, (name, (toString result).toList) :: values)

end Expression
end KotlinAudit.Shell
