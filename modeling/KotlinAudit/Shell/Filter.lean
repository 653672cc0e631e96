import KotlinAudit.Shell.Call

/-! Programs that make a text out of another one. -/
namespace KotlinAudit.Shell.Filter

/-- The number that an option gives, with a sign in front. -/
private def count? (text : List Char) : Option (Option Char × Nat) :=
  let (sign, digits) := match text with
    | '+' :: rest => (some '+', rest)
    | '-' :: rest => (some '-', rest)
    | rest => (none, rest)
  if digits.isEmpty || !digits.all Text.isAsciiDigit then none
  else some (sign, Decimal.natOfDigits digits)

structure Amount where
  ofLines : Bool
  sign : Option Char
  count : Nat

/-- The option at the start of some words that says how much is kept. -/
private def amount? : List (List Char) → Except (List Char) (Option (Amount × List (List Char)))
  | ('-' :: kind :: value) :: rest =>
    if kind == 'n' || kind == 'c' then
      let (value, rest) := if value.isEmpty then (rest.headD [], rest.tail) else (value, rest)
      match count? value with
      | some (sign, count) => .ok (some (⟨kind == 'n', sign, count⟩, rest))
      | none =>
        .error (message (if kind == 'n' then "invalid number of lines: " else
          "invalid number of bytes: ") ++ inQuotes value)
    else if Text.isAsciiDigit kind && value.all Text.isAsciiDigit then
      .ok (some (⟨true, none, Decimal.natOfDigits (kind :: value)⟩, rest))
    else .ok none
  | _ => .ok none

private def unread (operand reason : List Char) : List Char :=
  message "cannot open '" ++ operand ++ message "' for reading: " ++ reason

private def ends (call : Call) (cut : Amount → List Char → List Char) : Run :=
  match amount? call.arguments with
  | .error text => call.complain text 1
  | .ok found =>
    let (amount, operands) := found.getD (⟨true, none, 10⟩, call.arguments)
    match operands.find? fun operand => operand.head? == some '-' && operand.length > 1 with
    | some option => call.refuseOption option 1
    | none =>
      let operands := Call.operandsOr operands
      let headed := operands.length > 1
      let shown := operands.zipIdx.map fun (operand, index) =>
        match call.content operand with
        | .error reason => Event.errors (call.line (unread operand reason))
        | .ok text =>
          let title := if operand == ['-'] then message "standard input" else operand
          let heading := if headed then (if index == 0 then [] else ['\n']) ++ message "==> " ++
            title ++ message " <==\n" else []
          .output (heading ++ cut amount text)
      let failed := shown.any fun event => match event with
        | .errors _ => true
        | _ => false
      ⟨shown, if failed then 1 else 0, []⟩

private def pieces (amount : Amount) (text : List Char) : List (List Char) :=
  if amount.ofLines then linesOf text else text.map ([·])

def head (call : Call) : Run :=
  let run := ends call fun amount text =>
    let parts := pieces amount text
    (match amount.sign with
      | some '-' => parts.take (parts.length - amount.count)
      | _ => parts.take amount.count).flatten
  { run with unread := call.input.drop (outputOf run.events).length }

def tail (call : Call) : Run := ends call fun amount text =>
  let parts := pieces amount text
  (match amount.sign with
    | some '+' => parts.drop (amount.count - 1)
    | _ => parts.drop (parts.length - amount.count)).flatten

def cat (call : Call) : Run :=
  match call.arguments.find? fun word => word.head? == some '-' && word.length > 1 with
  | some option => call.refuseOption option 1
  | none =>
    let (text, events, code) := call.gather Call.plainly 1 (Call.operandsOr call.arguments)
    ⟨.output text :: events, code, []⟩

def tac (call : Call) : Run :=
  let (text, events, code) := call.gather Call.plainly 1 (Call.operandsOr call.arguments)
  ⟨.output (linesOf text).reverse.flatten :: events, code, []⟩

def rev (call : Call) : Run :=
  let (text, events, code) := call.gather (fun operand reason =>
    message "cannot open " ++ Call.plainly operand reason) 1 (Call.operandsOr call.arguments)
  let turned := (linesOf text).flatMap fun line =>
    (match textOf (bare line) with
      | .ok characters => octetsOf characters.reverse
      | .error _ => (bare line).reverse) ++ line.drop (bare line).length
  ⟨.output turned :: events, code, []⟩

def tee (call : Call) : Run := Run.writing call.input

private def flags (call : Call) : List Char × List (List Char) :=
  let (options, operands) := call.arguments.partition fun word =>
    word.head? == some '-' && word.length > 1
  (options.flatMap (·.drop 1), operands)

private def counts (text : List Char) : List (Char × Nat) :=
  [('l', (text.filter (· == '\n')).length), ('w', (Text.words Text.isSpace text).length),
    ('m', ((textOf text).toOption.getD text).length), ('c', text.length)]

private def padded (width : Nat) (text : List Char) : List Char :=
  List.replicate (width - text.length) ' ' ++ text

def wc (call : Call) : Run :=
  let (options, operands) := flags call
  let wanted := if options.isEmpty then ['l', 'w', 'c'] else options
  let named := !operands.isEmpty
  let shown := (Call.operandsOr operands).map fun operand =>
    match call.content operand with
    | .error reason => Event.errors (call.line (Call.plainly operand reason))
    | .ok text =>
      let numbers := (counts text).filter fun (kind, _) => wanted.contains kind
      let width := if numbers.length == 1 || named then 1 else 7
      .output (Text.join [' '] (numbers.map fun (_, count) => padded width (toString count).toList) ++
        (if named then ' ' :: operand else []) ++ ['\n'])
  let failed := shown.any fun event => match event with
    | .errors _ => true
    | _ => false
  ⟨shown, if failed then 1 else 0, []⟩

private def classes : List (String × (Char → Bool)) :=
  [("upper", fun c => 'A' ≤ c && c ≤ 'Z'), ("lower", fun c => 'a' ≤ c && c ≤ 'z'),
    ("digit", Text.isAsciiDigit), ("alpha", Text.isAsciiLetter),
    ("alnum", fun c => Text.isAsciiLetter c || Text.isAsciiDigit c),
    ("space", fun c => c == ' ' || ('\t' ≤ c && c ≤ '\r')), ("blank", fun c => c == ' ' || c == '\t'),
    ("punct", fun c => '!' ≤ c && c ≤ '~' && !Text.isAsciiLetter c && !Text.isAsciiDigit c)]

/-- The octets of a set: single ones, ranges, classes and escapes. -/
def setOf : Nat → List Char → List Char
  | 0, _ => []
  | steps + 1, text =>
    match text with
    | [] => []
    | '[' :: ':' :: rest =>
      let name := rest.takeWhile (· != ':')
      match classes.lookup (String.ofList name) with
      | some isMember =>
        ((List.range 256).map Char.ofNat).filter isMember ++ setOf steps (rest.drop (name.length + 2))
      | none => '[' :: setOf steps (':' :: rest)
    | '\\' :: rest =>
      let (found, count) := Format.escape .shell false rest
      (if count == 1 && found.length == 2 then found.drop 1 else found) ++ setOf steps (rest.drop count)
    | first :: '-' :: last :: rest =>
      if first ≤ last then
        ((List.range (last.toNat - first.toNat + 1)).map fun n => Char.ofNat (first.toNat + n)) ++
          setOf steps rest
      else first :: setOf steps ('-' :: last :: rest)
    | c :: rest => c :: setOf steps rest

private def squeezed (isMember : Char → Bool) : List Char → List Char
  | [] => []
  | [c] => [c]
  | c :: d :: rest =>
    if c == d && isMember c then squeezed isMember (d :: rest) else c :: squeezed isMember (d :: rest)

def tr (call : Call) : Run :=
  let (options, sets) := flags call
  let has (flag : Char) : Bool := options.contains flag
  let set (text : List Char) : List Char := setOf (text.length + 1) text
  let inverted := has 'c' || has 'C'
  let only (first : List Char) (c : Char) : Bool := first.contains c != inverted
  match sets with
  | [] => call.refuse (message "missing operand") 1
  | [first] =>
    let first := set first
    if has 'd' then Run.writing (call.input.filter fun c => !only first c)
    else if has 's' then Run.writing (squeezed (only first) call.input)
    else call.refuse (message "missing operand after " ++ inQuotes (sets.headD []) ++
      message "\nTwo strings must be given when translating.") 1
  | [first, second] =>
    let first := set first
    let second := set second
    if has 'd' && !has 's' then
      call.refuse (message "extra operand " ++ inQuotes (sets.getLastD []) ++
        message "\nOnly one string may be given when deleting without squeezing repeats.") 1
    else
      let last := second.getLastD ' '
      let changed (c : Char) : Char :=
        if inverted then (if first.contains c then c else last)
        else match first.findIdx? (· == c) with
          | some index => second[index]?.getD last
          | none => c
      let text := if has 'd' then call.input.filter fun c => !only first c
        else call.input.map changed
      Run.writing (if has 's' then squeezed second.contains text else text)
  | _ => call.refuse (message "extra operand " ++ inQuotes ((sets.drop 2).headD [])) 1

private def numeral (line : List Char) : Int := (Format.integerOf.plain line).1

private def withoutRepeats (same : List Char → List Char → Bool) :
    List (List Char) → List (List Char)
  | [] => []
  | [line] => [line]
  | line :: next :: rest =>
    if same line next then
      match withoutRepeats same (next :: rest) with
      | _ :: others => line :: others
      | [] => [line]
    else line :: withoutRepeats same (next :: rest)

def sort (call : Call) : Run :=
  let (options, operands) := flags call
  let (text, events, code) := call.gather (fun operand reason =>
    message "cannot read: " ++ Call.plainly operand reason) 2 (Call.operandsOr operands)
  if code != 0 then ⟨events, code, []⟩
  else
    let plain (x y : List Char) : Bool := !decide (y < x)
    let fits (x y : List Char) : Bool :=
      if options.contains 'n' then
        decide (numeral x < numeral y) || (numeral x == numeral y && (options.contains 'u' || plain x y))
      else plain x y
    let sorted := ((linesOf text).map bare).mergeSort fun x y =>
      if options.contains 'r' then fits y x else fits x y
    let same (x y : List Char) : Bool := if options.contains 'n' then numeral x == numeral y else x == y
    let kept := if options.contains 'u' then withoutRepeats same sorted else sorted
    Run.writing (kept.flatMap (· ++ ['\n']))

private def grouped : List (List Char) → List (List Char × Nat)
  | [] => []
  | line :: rest =>
    match grouped rest with
    | (next, count) :: others =>
      if next == line then (line, count + 1) :: others else (line, 1) :: (next, count) :: others
    | [] => [(line, 1)]

def uniq (call : Call) : Run :=
  let (options, operands) := flags call
  let (text, events, code) := call.gather Call.plainly 1 (Call.operandsOr operands)
  let shown := (grouped ((linesOf text).map bare)).filter fun (_, count) =>
    (!options.contains 'd' || count > 1) && (!options.contains 'u' || count == 1)
  ⟨.output (shown.flatMap fun (line, count) =>
      (if options.contains 'c' then padded 7 (toString count).toList ++ [' '] else []) ++ line ++ ['\n'])
    :: events, code, []⟩

/-- The ranges of a list such as `1,3-5`. -/
private def ranges (text : List Char) : List (Nat × Nat) :=
  (Text.splitAll (· == ',') text).map fun part =>
    match Text.splitAll (· == '-') part with
    | [first, last] =>
      (if first.isEmpty then 1 else Decimal.natOfDigits first,
        if last.isEmpty then 1000000 else Decimal.natOfDigits last)
    | _ => (Decimal.natOfDigits part, Decimal.natOfDigits part)

/-- An option with its value in the same word or in the next one. -/
private def optionValue (letter : Char) : List (List Char) → Option (List Char)
  | [] => none
  | word :: rest =>
    match word with
    | '-' :: c :: value =>
      if c == letter then some (if value.isEmpty then rest.headD [] else value)
      else optionValue letter rest
    | _ => optionValue letter rest

def cut (call : Call) : Run :=
  let byField := optionValue 'f' call.arguments
  let byOctet := (optionValue 'c' call.arguments).orElse fun _ => optionValue 'b' call.arguments
  let delimiter := ((optionValue 'd' call.arguments).getD ['\t']).headD '\t'
  let kept {α : Type} (list : List Char) (parts : List α) : List α :=
    (parts.zipIdx.filter fun (_, index) =>
      (ranges list).any fun (first, last) => first ≤ index + 1 && index + 1 ≤ last).map (·.1)
  match byField, byOctet with
  | some list, _ => Run.writing ((linesOf call.input).flatMap fun line =>
      let line := bare line
      (if line.contains delimiter then
          Text.join [delimiter] (kept list (Text.splitAll (· == delimiter) line))
        else line) ++ ['\n'])
  | none, some list => Run.writing ((linesOf call.input).flatMap fun line => kept list (bare line) ++ ['\n'])
  | none, none =>
    call.refuse (message "you must specify a list of bytes, characters, or fields") 1

end KotlinAudit.Shell.Filter
