import KotlinAudit.Decimal.Numeral
import KotlinAudit.Shell.Call

/-! Conditions on texts, numbers and files. -/
namespace KotlinAudit.Shell.Condition

inductive Fault
  | illegalNumber (text : List Char)
  /-- The second of two words is no operand. -/
  | missingArgument (first second : List Char)
  /-- The second of three words is no operator. -/
  | noOperator (first second : List Char)
  /-- Something follows a condition. -/
  | extra (shown word : List Char)
  | missingBracket
deriving DecidableEq, Repr

abbrev Answer := Except Fault Bool

private def number (text : List Char) : Except Fault Int :=
  let digits := Text.trimBy Text.isSpace text
  if digits.all (fun c => Text.isAsciiDigit c || c == '-' || c == '+') then
    match Decimal.integer? digits with
    | some value => .ok value
    | none => .error (.illegalNumber text)
  else .error (.illegalNumber text)

private def onNumbers (test : Int → Int → Bool) (left right : List Char) : Answer := do
  let left ← number left
  let right ← number right
  return test left right

/-- A condition with an operator between two operands, none if there is no such operator. The sign
for equality may be doubled if `doubled`. -/
private def binary? (doubled : Bool) (left operator right : List Char) : Option Answer :=
  match String.ofList operator with
  | "=" => some (.ok (left == right))
  | "==" => if doubled then some (.ok (left == right)) else none
  | "!=" => some (.ok (left != right))
  | "<" => some (.ok (decide (left < right)))
  | ">" => some (.ok (decide (right < left)))
  | "-eq" => some (onNumbers (· == ·) left right)
  | "-ne" => some (onNumbers (· != ·) left right)
  | "-lt" => some (onNumbers (fun x y => decide (x < y)) left right)
  | "-le" => some (onNumbers (fun x y => decide (x ≤ y)) left right)
  | "-gt" => some (onNumbers (fun x y => decide (y < x)) left right)
  | "-ge" => some (onNumbers (fun x y => decide (y ≤ x)) left right)
  | _ => none

private def stands (kind : Place → Bool) (path : List Char) : Bool :=
  !path.isEmpty && kind (Place.ofPath (if path.contains '/' then path else '.' :: '/' :: path))

private def unary? (operator operand : List Char) : Option Answer :=
  match String.ofList operator with
  | "-n" => some (.ok (!operand.isEmpty))
  | "-z" => some (.ok operand.isEmpty)
  | "-e" | "-r" | "-w" => some (.ok (stands (fun place => match place with
      | .missing | .blocked | .tooLong => false
      | _ => true) operand))
  | "-d" => some (.ok (stands (· == .directory) operand))
  | "-f" | "-s" => some (.ok (stands (fun place => match place with
      | .program _ => true
      | .file => !"/dev/".toList.isPrefixOf operand
      | _ => false) operand))
  | "-x" => some (.ok (stands (fun place => match place with
      | .program _ | .directory => true
      | _ => false) operand))
  | "-c" => some (.ok (stands (· == .file) operand && "/dev/".toList.isPrefixOf operand))
  | "-L" | "-h" | "-b" | "-p" | "-S" | "-t" => some (.ok false)
  | _ => none

/-- The answer for words. Few words are told apart by their number; of more, those before a word for
"or" are asked first, and within them those before a word for "and". -/
def answer (doubled : Bool) : Nat → List (List Char) → Answer
  | 0, _ => .ok false
  | steps + 1, words =>
    match words with
    | [] => .ok false
    | [word] => .ok (!word.isEmpty)
    | ['!'] :: rest => (answer doubled steps rest).map (!·)
    | [operator, operand] =>
      match unary? operator operand with
      | some found => found
      | none => .error (.missingArgument operator operand)
    | words =>
      let single : Option Answer := match words with
        | [left, operator, right] =>
          (binary? doubled left operator right).orElse fun _ =>
            if left == ['('] && right == [')'] then some (.ok (!operator.isEmpty)) else none
        | _ => none
      match single with
      | some found => found
      | none =>
        let splitAt (operator : List Char) : Option (List (List Char) × List (List Char)) :=
          let before := words.takeWhile (· != operator)
          if before.isEmpty || words.length ≤ before.length + 1 then none
          else some (before, words.drop (before.length + 1))
        match splitAt ['-', 'o'], splitAt ['-', 'a'], words with
        | some (left, right), _, _ => do
          let first ← answer doubled steps left
          let second ← answer doubled steps right
          return first || second
        | none, some (left, right), _ => do
          let first ← answer doubled steps left
          let second ← answer doubled steps right
          return first && second
        | none, none, [first, second, _] => .error (.noOperator first second)
        | none, none, first :: second :: third :: fourth :: _ =>
          if (binary? doubled first second third).isSome then .error (.extra third fourth)
          else .error (.extra first second)
        | none, none, _ => .ok false

private def isComparison (text : List Char) : Bool := (binary? true [] text []).isSome

def Fault.shellMessage : Fault → String
  | illegalNumber text => "Illegal number: " ++ String.ofList text
  | missingArgument first second =>
    if isComparison second then String.ofList second ++ ": argument expected"
    else String.ofList first ++ ": unexpected operator"
  | noOperator first _ => String.ofList first ++ ": unexpected operator"
  | extra shown _ => String.ofList shown ++ ": unexpected operator"
  | missingBracket => "missing ]"

/-- How a program of its own says why, with its quotes around what it names. -/
def Fault.message (quoted : List Char → String) : Fault → String
  | illegalNumber text => "invalid integer " ++ quoted text
  | missingArgument _ second => "missing argument after " ++ quoted second
  | noOperator _ second => quoted second ++ ": binary operator expected"
  | extra _ word => "extra argument " ++ quoted word
  | missingBracket => "missing " ++ quoted [']']

end KotlinAudit.Shell.Condition
