import KotlinAudit.Shell.Condition
import KotlinAudit.Shell.Filter

/-! The programs that a command may start, other than those that start further commands. -/
namespace KotlinAudit.Shell.Program

/-- The options of an echo and the words after them: whether escapes are followed, and whether the
line is ended. -/
private def echoOptions (escapes ended : Bool) : List (List Char) → Bool × Bool × List (List Char)
  | ('-' :: letters) :: rest =>
    if letters.isEmpty || !letters.all fun c => c == 'n' || c == 'e' || c == 'E' then
      (escapes, ended, ('-' :: letters) :: rest)
    else
      let escapes := letters.foldl (fun escapes c =>
        if c == 'e' then true else if c == 'E' then false else escapes) escapes
      echoOptions escapes (ended && !letters.contains 'n') rest
  | words => (escapes, ended, words)

/-- What an echo writes. A shell's own one always follows escapes and knows one option. -/
def echoed (writer : Writer) (words : List (List Char)) : List Char :=
  let (escapes, ended, words) := match writer, words with
    | .shell, ['-', 'n'] :: rest => (true, false, rest)
    | .shell, words => (true, true, words)
    | .program, words => echoOptions false true words
  let text := Text.join [' '] words
  let (text, isOver) := if escapes then Format.unescaped writer (text.length + 1) text else (text, false)
  if ended && !isOver then text ++ ['\n'] else text

private def faultText (writer : Writer) (argument : List Char) (fault : Format.NumberFault) :
    List Char :=
  match writer, fault with
  | .shell, .notNumeric => argument ++ message ": expected numeric value"
  | .shell, .notWhole => argument ++ message ": not completely converted"
  | .program, .notNumeric => inQuotes argument ++ message ": expected a numeric value"
  | .program, .notWhole => inQuotes argument ++ message ": value not completely converted"

def printf (writer : Writer) (call : Call) : Run :=
  let arguments := if call.arguments.head? == some ['-', '-'] then call.arguments.tail
    else call.arguments
  match arguments, writer with
  | [], .shell => call.complain (message "usage: printf format [arg ...]") 2
  | [], .program => call.refuse (message "missing operand") 1
  | format :: rest, writer =>
    let written := Format.written writer format (rest.length + 1) rest
    let complaints := written.faults.map fun (argument, fault) =>
      Event.errors (call.line (faultText writer argument fault))
    let unknown := written.unknown.toList.map fun directive =>
      let text := match writer with
        | .program => directive ++ message ": invalid conversion specification"
        | .shell =>
          if directive.length == format.length && !(directive.getLast?.map Text.isAsciiLetter).getD false
          then message "missing format character"
          else directive ++ message ": invalid directive"
      Event.errors (call.line text)
    let excess := if writer == .program && written.left.length == rest.length && !rest.isEmpty &&
        written.unknown.isNone && !written.isOver then
        [Event.errors (call.line (message "warning: ignoring excess arguments, starting with " ++
          inQuotes (rest.headD [])))]
      else []
    let code : Int := if !unknown.isEmpty then (if writer == .shell then 2 else 1)
      else if complaints.isEmpty then 0 else 1
    ⟨complaints ++ excess ++ unknown ++ [.output written.text], code, call.input⟩

/-- The seconds that a text with an optional unit stands for. -/
def seconds? (text : List Char) : Option Rat :=
  let (number, unit) := match text.getLast? with
    | some c => if "smhd".toList.contains c then (text.dropLast, c) else (text, 's')
    | none => ([], 's')
  let factor : Rat := if unit == 'm' then 60 else if unit == 'h' then 3600
    else if unit == 'd' then 86400 else 1
  let number := match number with
    | '+' :: rest => rest
    | rest => rest
  if ["inf", "infinity"].contains (String.ofList (number.map Char.toLower)) then some endless
  else
    let front := number.takeWhile Text.isAsciiDigit
    let number := if front.isEmpty then '0' :: number else
      let zeros := front.takeWhile (· == '0')
      number.drop (if zeros.length == front.length then front.length - 1 else zeros.length)
    let number := if number.getLast? == some '.' then number.dropLast else number
    match Decimal.Numeral.read? number with
    | some (.whole value) => if text.isEmpty then none else some (factor * value)
    | some (.fractional value) => value.toRat?.map (factor * ·)
    | none => none

def sleep (call : Call) : Run :=
  match call.arguments.find? fun word => word.head? == some '-' && word.length > 1 with
  | some option => call.refuseOption option 1
  | none =>
    if call.arguments.isEmpty then call.refuse (message "missing operand") 1
    else
      match call.arguments.filter fun word => (seconds? word).isNone with
      | [] => ⟨[.wait ((call.arguments.filterMap seconds?).foldl (· + ·) 0)], 0, call.input⟩
      | wrong =>
        let text (word : List Char) : List Char := message "invalid time interval " ++ inQuotes word
        let first := wrong.dropLast.map fun word => Event.errors (call.line (text word))
        let last := call.refuse (text (wrong.getLastD [])) 1
        { last with events := first ++ last.events }

/-- A decimal number as an integer of the last of its places, and how many places it has. -/
private def decimal? (text : List Char) : Option (Int × Nat) :=
  let (negative, digits) := match text with
    | '-' :: rest => (true, rest)
    | '+' :: rest => (false, rest)
    | rest => (false, rest)
  let (whole, rest) := digits.span Text.isAsciiDigit
  let (fraction, rest) := match rest with
    | '.' :: rest => rest.span Text.isAsciiDigit
    | rest => ([], rest)
  let exponent? : Option Nat := match rest with
    | [] => some 0
    | 'e' :: digits | 'E' :: digits =>
      if !digits.isEmpty && digits.all Text.isAsciiDigit then some (Decimal.natOfDigits digits) else none
    | _ => none
  if whole.isEmpty && fraction.isEmpty then none
  else exponent?.map fun exponent =>
    let value : Int := Decimal.natOfDigits (whole ++ fraction)
    let value := if negative then -value else value
    (value * (Nat.pow 10 (exponent - fraction.length) : Nat), fraction.length - exponent)

private def scaled (places : Nat) (value : Int × Nat) : Int :=
  value.1 * (Nat.pow 10 (places - value.2) : Nat)

/-- A number with its last places behind a point. -/
private def placed (places : Nat) (value : Int) : List Char :=
  let digits := (toString value.natAbs).toList
  let digits := List.replicate (places + 1 - digits.length) '0' ++ digits
  let front := digits.take (digits.length - places)
  (if value < 0 then ['-'] else []) ++ front ++
    (if places == 0 then [] else '.' :: digits.drop (digits.length - places))

private def series (count : Nat) (first step : Int) : List Int :=
  (List.range count).map fun (n : Nat) => first + step * n

private structure SeqOptions where
  separator : List Char := ['\n']
  equalWidths : Bool := false
  format : Option (List Char) := none

private def seqOptions (options : SeqOptions) :
    List (List Char) → SeqOptions × List (List Char)
  | ['-', 'w'] :: rest => seqOptions { options with equalWidths := true } rest
  | ['-', 's'] :: given :: rest => seqOptions { options with separator := given } rest
  | ['-', 'f'] :: given :: rest => seqOptions { options with format := some given } rest
  | ('-' :: 's' :: c :: given) :: rest => seqOptions { options with separator := c :: given } rest
  | rest => (options, rest)

def seq (call : Call) : Run :=
  let (options, operands) := seqOptions {} call.arguments
  match operands with
  | [] => call.refuse (message "missing operand") 1
  | _ :: _ :: _ :: extra :: _ => call.refuse (message "extra operand " ++ inQuotes extra) 1
  | operands =>
    match operands.find? fun word => (decimal? word).isNone with
    | some word =>
      if word.head? == some '-' && word.length > 1 then call.refuseOption word 1
      else call.refuse (message "invalid floating point argument: " ++ inQuotes word) 1
    | none =>
      let numbers := operands.filterMap decimal?
      let (first, step, last) := match numbers with
        | [last] => ((1, 0), (1, 0), last)
        | [first, last] => (first, (1, 0), last)
        | first :: step :: last :: _ => (first, step, last)
        | [] => ((1, 0), (1, 0), (0, 0))
      if step.1 == 0 then
        call.refuse (message "invalid Zero increment value: " ++ inQuotes (operands[1]?.getD [])) 1
      else
        let places := max first.2 step.2
        let common := max places last.2
        let start := scaled common first
        let stride := scaled common step
        let stop := scaled common last
        let span := if 0 < stride then stop - start else start - stop
        let count := if span < 0 then 0 else (span / stride.natAbs).toNat + 1
        let values := (series count start stride).map fun value =>
          placed places (value / (Nat.pow 10 (common - places) : Nat))
        let width := (values.map (·.length)).foldl max 0
        let shown := match options.format with
          | some format => values.map fun text => (Format.written .program format 2 [text]).text
          | none =>
            if options.equalWidths then values.map fun text =>
              match text with
              | '-' :: digits => '-' :: List.replicate (width - text.length) '0' ++ digits
              | digits => List.replicate (width - text.length) '0' ++ digits
            else values
        if shown.isEmpty then ⟨[], 0, call.input⟩
        else ⟨[.output (Text.join options.separator shown ++ ['\n'])], 0, call.input⟩

private def withoutSlashes (path : List Char) : List Char :=
  let trimmed := Text.trimRight (· == '/') path
  if trimmed.isEmpty && !path.isEmpty then ['/'] else trimmed

private def lastName (path : List Char) : List Char :=
  let path := withoutSlashes path
  if path == ['/'] then path else (path.reverse.takeWhile (· != '/')).reverse

private def withoutSuffix (suffix name : List Char) : List Char :=
  if suffix.isSuffixOf name && suffix != name then name.take (name.length - suffix.length) else name

def basename (call : Call) : Run :=
  match call.arguments with
  | [] => call.refuse (message "missing operand") 1
  | ['-', 's'] :: suffix :: paths => Run.writing (paths.flatMap fun path =>
      withoutSuffix suffix (lastName path) ++ ['\n'])
  | ['-', 'a'] :: paths => Run.writing (paths.flatMap fun path => lastName path ++ ['\n'])
  | [path] => Run.writing (lastName path ++ ['\n'])
  | [path, suffix] => Run.writing (withoutSuffix suffix (lastName path) ++ ['\n'])
  | _ :: _ :: extra :: _ => call.refuse (message "extra operand " ++ inQuotes extra) 1

private def directoryName (path : List Char) : List Char :=
  let path := withoutSlashes path
  let before := path.take (path.length - (path.reverse.takeWhile (· != '/')).length)
  if before.isEmpty then ['.'] else withoutSlashes before

def dirname (call : Call) : Run :=
  if call.arguments.isEmpty then call.refuse (message "missing operand") 1
  else Run.writing (call.arguments.flatMap fun path => directoryName path ++ ['\n'])

private inductive ExprFault
  | missingAfter (word : List Char)
  | unexpected (word : List Char)
  | notInteger
  | division

private def exprInteger? (text : List Char) : Option Int :=
  let digits := if text.head? == some '-' then text.drop 1 else text
  if digits.isEmpty || !digits.all Text.isAsciiDigit then none
  else some (if text.head? == some '-' then -(Decimal.natOfDigits digits : Int)
    else Decimal.natOfDigits digits)

private def exprRows : List (List String) :=
  [["|"], ["&"], ["<", "<=", "=", "==", "!=", ">=", ">"], ["+", "-"], ["*", "/", "%"]]

private def isNull (text : List Char) : Bool := text.isEmpty || exprInteger? text == some 0

private def truth (value : Bool) : List Char := if value then ['1'] else ['0']

private def exprValue (operator : String) (left right : List Char) : Except ExprFault (List Char) :=
  let onIntegers (f : Int → Int → Except ExprFault Int) : Except ExprFault (List Char) :=
    match exprInteger? left, exprInteger? right with
    | some x, some y => (f x y).map fun value => (toString value).toList
    | _, _ => .error .notInteger
  let compare (number : Int → Int → Bool) (text : List Char → List Char → Bool) : List Char :=
    match exprInteger? left, exprInteger? right with
    | some x, some y => truth (number x y)
    | _, _ => truth (text left right)
  match operator with
  | "|" => .ok (if !isNull left then left else if isNull right then ['0'] else right)
  | "&" => .ok (if isNull left || isNull right then ['0'] else left)
  | "<" => .ok (compare (fun x y => decide (x < y)) fun x y => decide (x < y))
  | "<=" => .ok (compare (fun x y => decide (x ≤ y)) fun x y => !decide (y < x))
  | "=" | "==" => .ok (compare (· == ·) (· == ·))
  | "!=" => .ok (compare (· != ·) (· != ·))
  | ">=" => .ok (compare (fun x y => decide (y ≤ x)) fun x y => !decide (x < y))
  | ">" => .ok (compare (fun x y => decide (y < x)) fun x y => decide (y < x))
  | "+" => onIntegers fun x y => .ok (x + y)
  | "-" => onIntegers fun x y => .ok (x - y)
  | "*" => onIntegers fun x y => .ok (x * y)
  | "/" => onIntegers fun x y => if y == 0 then .error .division else .ok (x.tdiv y)
  | _ => onIntegers fun x y => if y == 0 then .error .division else .ok (x.tmod y)

private abbrev ExprRead := Except ExprFault (List Char × List (List Char))

mutual

private def exprChain : Nat → List Char → List (List String) → List (List Char) → ExprRead
  | 0, last, _, _ => .error (.missingAfter last)
  | steps + 1, last, [], words =>
    match words with
    | [] => .error (.missingAfter last)
    | ['('] :: rest => do
      let (value, rest) ← exprChain steps ['('] exprRows rest
      match rest with
      | [')'] :: rest => return (value, rest)
      | word :: _ => .error (.unexpected word)
      | [] => .error (.missingAfter value)
    | word :: text :: rest =>
      if word == "length".toList then
        .ok ((toString text.length).toList, rest)
      else if word == ['+'] then .ok (text, rest)
      else match word == "substr".toList, word == "index".toList, rest with
        | true, _, start :: count :: rest =>
          match exprInteger? start, exprInteger? count with
          | some start, some count =>
            if start ≤ 0 || count ≤ 0 then .ok ([], rest)
            else .ok ((text.drop (start - 1).toNat).take count.toNat, rest)
          | _, _ => .ok ([], rest)
        | _, true, wanted :: rest =>
          let place := (text.findIdx? fun c => wanted.contains c).map (· + 1)
          .ok ((toString (place.getD 0)).toList, rest)
        | _, _, _ => .ok (word, text :: rest)
    | [word] => .ok (word, [])
  | steps + 1, last, row :: rows, words => do
    let (left, rest) ← exprChain steps last rows words
    exprMore steps row rows left rest

private def exprMore : Nat → List String → List (List String) → List Char → List (List Char) → ExprRead
  | 0, _, _, left, _ => .error (.missingAfter left)
  | steps + 1, row, rows, left, words =>
    match words with
    | operator :: rest =>
      if row.contains (String.ofList operator) then do
        let (right, rest) ← exprChain steps operator rows rest
        exprMore steps row rows (← exprValue (String.ofList operator) left right) rest
      else .ok (left, words)
    | [] => .ok (left, [])

end

def expr (call : Call) : Run :=
  if call.arguments.isEmpty then call.refuse (message "missing operand") 2
  else
    match exprChain (16 * call.arguments.length + 16) [] exprRows call.arguments with
    | .ok (value, []) =>
      ⟨[.output (value ++ ['\n'])], if isNull value then 1 else 0, call.input⟩
    | .ok (_, word :: _) =>
      call.complain (message "syntax error: unexpected argument " ++ inQuotes word) 2
    | .error (.missingAfter word) =>
      call.complain (message "syntax error: missing argument after " ++ inQuotes word) 2
    | .error (.unexpected word) =>
      call.complain (message "syntax error: expecting ')' instead of " ++ inQuotes word) 2
    | .error .notInteger => call.complain (message "non-integer argument") 2
    | .error .division => call.complain (message "division by zero") 2

def uname (call : Call) : Run :=
  match call.arguments with
  | [] | [['-', 's']] => Run.writing (message "Linux\n")
  | word :: _ =>
    if word.head? == some '-' then call.refuseOption word 1
    else call.refuse (message "extra operand " ++ inQuotes word) 1

def ls (call : Call) : Run :=
  let (options, paths) := call.arguments.partition fun word => word.head? == some '-' && word.length > 1
  match options.find? fun option => option.take 2 == ['-', '-'] with
  | some option => call.refuseOption option 2
  | none =>
    let found := paths.filter fun path => (call.content path).isOk ||
      options.contains ['-', 'd'] && (match call.content path with
        | .error reason => reason == message "Is a directory"
        | .ok _ => true)
    let lost := paths.filterMap fun path =>
      match call.content path with
      | .error reason => if reason == message "Is a directory" then none else
          some (Event.errors (call.line (message "cannot access '" ++ path ++ message "': " ++ reason)))
      | .ok _ => none
    ⟨lost ++ found.map fun path => .output (path ++ ['\n']), if lost.isEmpty then 0 else 2, call.input⟩

def which (call : Call) : Run :=
  let found := call.arguments.filterMap fun word =>
    match Place.ofWord word with
    | .program name => some (if word.contains '/' then word else message ("/usr/bin/" ++ name))
    | _ => none
  let code := if found.length == call.arguments.length && !found.isEmpty then 0 else 1
  ⟨found.map fun path => .output (path ++ ['\n']), code, call.input⟩

/-- Goes on for ever; what it has written is seen only by those who stop listening. -/
def yes (call : Call) : Run :=
  let line := (if call.arguments.isEmpty then ['y'] else Text.join [' '] call.arguments) ++ ['\n']
  ⟨[.output (List.replicate 1000 line).flatten, .wait endless], 0, call.input⟩

def test (bracketed : Bool) (call : Call) : Run :=
  let words := if bracketed then call.arguments.dropLast else call.arguments
  let answer := if bracketed && call.arguments.getLast? != some [']'] then .error .missingBracket
    else Condition.answer true (words.length + 1) words
  match answer with
  | .ok answer => ⟨[], if answer then 0 else 1, call.input⟩
  | .error fault => call.complain
      (message (fault.message fun octets => "‘" ++ String.ofList octets ++ "’")) 2

/-- The run of a program that stands at a known place, none where it starts further commands. -/
def run? (name : String) (call : Call) : Option Run :=
  match name with
  | "true" => some (.silent 0)
  | "false" => some (.silent 1)
  | "echo" => some { Run.writing (echoed .program call.arguments) with unread := call.input }
  | "printf" => some (printf .program call)
  | "cat" => some (Filter.cat call)
  | "head" => some (Filter.head call)
  | "tail" => some (Filter.tail call)
  | "tac" => some (Filter.tac call)
  | "rev" => some (Filter.rev call)
  | "tee" => some (Filter.tee call)
  | "wc" => some (Filter.wc call)
  | "tr" => some (Filter.tr call)
  | "sort" => some (Filter.sort call)
  | "uniq" => some (Filter.uniq call)
  | "cut" => some (Filter.cut call)
  | "sleep" => some (sleep call)
  | "seq" => some (seq call)
  | "basename" => some (basename call)
  | "dirname" => some (dirname call)
  | "expr" => some (expr call)
  | "uname" => some (uname call)
  | "ls" => some (ls call)
  | "which" => some (which call)
  | "yes" => some (yes call)
  | "test" => some (test false call)
  | "[" => some (test true call)
  | _ => none

end KotlinAudit.Shell.Program
