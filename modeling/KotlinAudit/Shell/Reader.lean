import KotlinAudit.Shell.Script
import KotlinAudit.Text.Scan

/-! Reading scripts. A script is read line by line; every line is a list of commands, which goes on
over line breaks where a command is not complete. Reading uses up a step at every choice. -/
namespace KotlinAudit.Shell

/-- What is left of a script, and the number of its line. -/
structure Cursor where
  rest : List Char
  line : Nat

abbrev Reading := StateT Cursor (Except (ScriptFault × Nat))

namespace Reading

private def fail {α : Type} (fault : ScriptFault) : Reading α := fun cursor =>
  .error (fault, cursor.line)

private def rest : Reading (List Char) := return (← get).rest

private def skip (count : Nat) : Reading Unit := modify fun cursor =>
  ⟨cursor.rest.drop count, cursor.line + ((cursor.rest.take count).filter (· == '\n')).length⟩

/-- Characters that end a word. -/
def endsWord (c : Char) : Bool := " \t\n;&|<>()".toList.contains c

def isNameStart (c : Char) : Bool := Text.isAsciiLetter c || c == '_'
def isNamePart (c : Char) : Bool := isNameStart c || Text.isAsciiDigit c

def isName (text : List Char) : Bool :=
  (text.head?.map isNameStart).getD false && text.all isNamePart

/-- How many characters a blank takes at the start of a text: a blank character, a line that goes on
or a comment. -/
private def blankLength : List Char → Nat
  | ' ' :: _ | '\t' :: _ => 1
  | '\\' :: '\n' :: _ => 2
  | '#' :: rest => 1 + (rest.takeWhile (· != '\n')).length
  | _ => 0

private def skipBlanks : Nat → Reading Unit
  | 0 => pure ()
  | steps + 1 => do
    let count := blankLength (← rest)
    if count == 0 then return
    skip count
    skipBlanks steps

/-- Also goes on over line breaks. -/
private def skipLines : Nat → Reading Unit
  | 0 => pure ()
  | steps + 1 => do
    skipBlanks (steps + 1)
    if (← rest).head? == some '\n' then
      skip 1
      skipLines steps

/-- The text up to the bracket that closes one before it, and the text behind it. Brackets in quotes
do not count. -/
def enclosed (opening closing : Char) (depth : Nat) (quote : Option Char) :
    List Char → Option (List Char × List Char)
  | [] => none
  | c :: rest =>
    let keep := Option.map fun (inside, after) => (c :: inside, after)
    match rest, quote with
    | d :: after, quote =>
      if c == '\\' && quote != some '\'' then
        (enclosed opening closing depth quote after).map fun (inside, after) =>
          (c :: d :: inside, after)
      else match quote with
        | some quote =>
          keep (enclosed opening closing depth (if c == quote then none else some quote) (d :: after))
        | none =>
          if c == closing then
            if depth == 0 then some ([], d :: after)
            else keep (enclosed opening closing (depth - 1) none (d :: after))
          else if c == opening then keep (enclosed opening closing (depth + 1) none (d :: after))
          else
            let quote := if c == '\'' || c == '"' || c == '\x60' then some c else none
            keep (enclosed opening closing depth quote (d :: after))
    | [], none => if c == closing && depth == 0 then some ([], []) else none
    | [], some _ => none

/-- The text up to a backquote, in which a backslash keeps a backquote from ending it. -/
private def backquoted : List Char → Option (List Char × Nat)
  | [] => none
  | '\x60' :: _ => some ([], 1)
  | '\\' :: c :: rest =>
    (backquoted rest).map fun (inside, count) =>
      (if c == '\x60' || c == '\\' || c == '$' then c :: inside else '\\' :: c :: inside, count + 2)
  | c :: rest => (backquoted rest).map fun (inside, count) => (c :: inside, count + 1)

private def isSpecial (c : Char) : Bool := "?$#@*!-".toList.contains c

/-- What stands between the braces of a parameter. -/
def parameter (quoted : Bool) (text : List Char) : Part :=
  let takesName (text : List Char) : List Char × List Char :=
    match text with
    | c :: rest =>
      if isSpecial c then ([c], rest)
      else if Text.isAsciiDigit c then text.span Text.isAsciiDigit
      else if isNameStart c then text.span isNamePart
      else ([], text)
    | [] => ([], [])
  let instead (name : List Char) (emptyToo : Bool) : List Char → Part
    | c :: word =>
      if "-=?+".toList.contains c then .parameter name (.instead c emptyToo word) quoted
      else .badParameter
    | [] => .badParameter
  match text with
  | '#' :: c :: rest =>
    let (name, after) := takesName (c :: rest)
    if after.isEmpty && !name.isEmpty then .parameter name .length quoted
    else match after with
      | _ => .badParameter
  | text =>
    match takesName text with
    | ([], _) => .badParameter
    | (name, []) => .parameter name .value quoted
    | (name, ':' :: rest) => instead name true rest
    | (name, '%' :: '%' :: pattern) => .parameter name (.without true true pattern) quoted
    | (name, '%' :: pattern) => .parameter name (.without true false pattern) quoted
    | (name, '#' :: '#' :: pattern) => .parameter name (.without false true pattern) quoted
    | (name, '#' :: pattern) => .parameter name (.without false false pattern) quoted
    | (name, rest) => instead name false rest

/-- What stands around a part of a word. -/
inductive Surroundings
  | plain
  | quotes
  /-- A text that stands in the script. -/
  | here
deriving DecidableEq, Repr

/-- A token as it stands in messages. -/
private def inDoubleQuotes (text : String) : String := "\"" ++ text ++ "\""

/-- The part that begins with a dollar sign, which has been read. -/
private def dollar (quoted : Bool) : Reading Part := do
  let text ← rest
  match text with
  | '(' :: '(' :: after =>
    match enclosed '(' ')' 0 none ('(' :: after) with
    | some (inside, left) =>
      if inside.getLast? == some ')' then
        skip (text.length - left.length)
        return .arithmetic ((inside.drop 1).dropLast) quoted
      else fail .missingBrackets
    | none => fail .missingBrackets
  | '(' :: after =>
    match enclosed '(' ')' 0 none after with
    | some (inside, left) =>
      skip (text.length - left.length)
      return .outputOf inside quoted
    | none => fail (.unexpected "end of file" (some (inDoubleQuotes ")")))
  | '\x7b' :: after =>
    match enclosed '\x7b' '\x7d' 0 none after with
    | some (inside, left) =>
      skip (text.length - left.length)
      return parameter quoted inside
    | none => fail .missingBrace
  | c :: rest =>
    if isSpecial c || Text.isAsciiDigit c then
      skip 1
      return .parameter [c] .value quoted
    else if isNameStart c then
      let name := (c :: rest).takeWhile isNamePart
      skip name.length
      return .parameter name .value quoted
    else return .literal ['$'] quoted
  | [] => return .literal ['$'] quoted

private def push (parts : Word) (c : Char) (quoted : Bool) : Word :=
  match parts.getLast? with
  | some (.literal octets wasQuoted) =>
    if wasQuoted == quoted then parts.dropLast ++ [.literal (octets ++ [c]) quoted]
    else parts ++ [.literal [c] quoted]
  | _ => parts ++ [.literal [c] quoted]

/-- The parts of a word up to its end; `parts` have been read. -/
def partsFrom (surroundings : Surroundings) : Nat → Word → Reading Word
  | 0, parts => return parts
  | steps + 1, parts => do
    let quoted := surroundings != .plain
    match ← rest with
    | [] => if surroundings == .quotes then fail .unterminatedQuote else return parts
    | '\\' :: '\n' :: _ =>
      skip 2
      partsFrom surroundings steps parts
    | '\\' :: c :: _ =>
      skip 2
      if !quoted then partsFrom surroundings steps (push parts c true)
      else if c == '$' || c == '\x60' || c == '\\' || (c == '"' && surroundings == .quotes) then
        partsFrom surroundings steps (push parts c true)
      else partsFrom surroundings steps (push (push parts '\\' true) c true)
    | '$' :: _ =>
      skip 1
      let part ← dollar quoted
      partsFrom surroundings steps (parts ++ [part])
    | '\x60' :: text =>
      match backquoted text with
      | none => fail .unterminatedBackquote
      | some (inside, count) =>
        skip (count + 1)
        partsFrom surroundings steps (parts ++ [.outputOf inside quoted])
    | c :: text =>
      if surroundings == .quotes && c == '"' then
        skip 1
        return parts
      else if quoted then
        skip 1
        partsFrom surroundings steps (push parts c true)
      else if endsWord c then return parts
      else if c == '"' then
        skip 1
        let inside ← partsFrom .quotes steps []
        partsFrom surroundings steps (parts ++ .literal [] true :: inside)
      else if c == '\'' then
        let inside := text.takeWhile (· != '\'')
        if inside.length == text.length then fail .unterminatedQuote
        skip (inside.length + 2)
        partsFrom surroundings steps (parts ++ [.literal inside true])
      else
        skip 1
        partsFrom surroundings steps (push parts c false)

/-- The words that can end a list of commands. -/
private def endings : List String := ["then", "else", "elif", "fi", "do", "done", "esac", "\x7d"]

def keywords : List String :=
  endings ++ ["!", "case", "for", "if", "in", "until", "while", "\x7b"]

/-- The name of what comes next, as it stands in messages. -/
private def token : Reading String := do
  let text ← rest
  match text with
  | [] => return "end of file"
  | '\n' :: _ => return "newline"
  | ';' :: ';' :: _ => return inDoubleQuotes ";;"
  | '&' :: '&' :: _ => return inDoubleQuotes "&&"
  | '|' :: '|' :: _ => return inDoubleQuotes "||"
  | '<' :: _ | '>' :: _ => return "redirection"
  | c :: _ =>
    if endsWord c then return inDoubleQuotes (String.ofList [c])
    else
      let word := String.ofList (text.takeWhile fun c => !endsWord c)
      return if keywords.contains word then inDoubleQuotes word else "word"

private def unexpected {α : Type} : Reading α := do fail (.unexpected (← token) none)

private def unexpectedFor {α : Type} (expected : String) : Reading α := do
  fail (.unexpected (← token) (some (inDoubleQuotes expected)))

/-- The plain word that comes next, without going on. -/
private def nextWord : Reading String :=
  return String.ofList ((← rest).takeWhile fun c => !endsWord c)

/-- Goes on behind a word of the language, which has to come next. -/
private def expect (steps : Nat) (word : String) : Reading Unit := do
  skipLines steps
  if (← nextWord) == word then skip word.length
  else unexpectedFor word

/-- The text of a script up to a line of its own, and how many characters that line and what stands
before it take. Tabs at the starts of lines may be left out. -/
private def hereText (tabs : Bool) (ending : List Char) : List (List Char) → List Char × Nat
  | [] => ([], 0)
  | line :: rest =>
    let shown := if tabs then line.dropWhile (· == '\t') else line
    if shown == ending then ([], line.length + 1)
    else if rest.isEmpty then (shown, line.length)
    else
      let (text, count) := hereText tabs ending rest
      (shown ++ '\n' :: text, count + line.length + 1)

/-- The characters of a word as it is written, without quotes. -/
private def plainText (word : Word) : List Char :=
  word.flatMap fun part => match part with
    | .literal octets _ => octets
    | _ => []

private def isQuoted (word : Word) : Bool :=
  word.any fun part => match part with
    | .literal _ quoted => quoted
    | _ => false

/-- A redirection, if one comes next. -/
private def redirection? (steps : Nat) : Reading (Option Redirection) := do
  let text ← rest
  let digits := text.takeWhile Text.isAsciiDigit
  let number (default : Nat) : Nat :=
    if digits.isEmpty then default
    else digits.foldl (fun n c => n * 10 + (c.toNat - 48)) 0
  let target (count : Nat) : Reading Word := do
    skip (digits.length + count)
    skipBlanks steps
    let word ← partsFrom .plain steps []
    if word.isEmpty then unexpected
    return word
  match text.drop digits.length with
  | '>' :: '>' :: _ => return some (.append (number 1) (← target 2))
  | '>' :: '&' :: _ => return some (.duplicate (number 1) (← target 2))
  | '>' :: '|' :: _ => return some (.write (number 1) (← target 2))
  | '>' :: _ => return some (.write (number 1) (← target 1))
  | '<' :: '<' :: rest =>
    let tabs := rest.head? == some '-'
    let ending ← target (if tabs then 3 else 2)
    let cursor ← get
    let (before, after) := cursor.rest.span (· != '\n')
    let (text, count) := hereText tabs (plainText ending) (Text.splitAll (· == '\n') (after.drop 1))
    set { cursor with rest := before ++ after.take 1 ++ after.drop (count + 1) }
    return some (.here text (!isQuoted ending))
  | '<' :: '&' :: _ =>
    let _ ← target 2
    return some (.here [] false)
  | '<' :: _ => return some (.read (← target 1))
  | _ => return none

private def redirections : Nat → Reading (List Redirection)
  | 0 => return []
  | steps + 1 => do
    skipBlanks (steps + 1)
    match ← redirection? steps with
    | none => return []
    | some first => return first :: (← redirections steps)

/-- The words and redirections of a simple command. -/
private def simpleParts : Nat → List Word → List Redirection → Reading (List Word × List Redirection)
  | 0, words, redirections => return (words, redirections)
  | steps + 1, words, redirections => do
    skipBlanks (steps + 1)
    match ← redirection? steps with
    | some redirection => simpleParts steps words (redirections ++ [redirection])
    | none =>
      let word ← partsFrom .plain steps []
      if word.isEmpty then return (words, redirections)
      else simpleParts steps (words ++ [word]) redirections

private def wordsUntil : Nat → Reading (List Word)
  | 0 => return []
  | steps + 1 => do
    skipBlanks (steps + 1)
    let word ← partsFrom .plain steps []
    if word.isEmpty then return []
    else return word :: (← wordsUntil steps)

private def patterns : Nat → Reading (List Word)
  | 0 => return []
  | steps + 1 => do
    skipBlanks (steps + 1)
    let word ← partsFrom .plain steps []
    if word.isEmpty && !(← rest).isEmpty then unexpected
    skipBlanks (steps + 1)
    match ← rest with
    | '|' :: _ =>
      skip 1
      return word :: (← patterns steps)
    | ')' :: _ =>
      skip 1
      return [word]
    | _ => unexpectedFor ")"

private def redirected (line : Nat) (redirections : List Redirection) (body : Command) : Command :=
  if redirections.isEmpty then body else .redirected body line redirections

private def afterCommand (left right : Command) : Command :=
  match left with
  | .nothing => right
  | left => .sequence left right

mutual

/-- Commands up to what can end a list; `before` have been read. There has to be one unless the text
is over or `mayBeEmpty`. With `single`, a line break ends the list as well. -/
private def commandsFrom (single mayBeEmpty : Bool) : Nat → Command → Reading Command
  | 0, before => return before
  | steps + 1, before => do
    if single then skipBlanks (steps + 1) else skipLines (steps + 1)
    let text ← rest
    let word ← nextWord
    let isEnd := text.isEmpty || text.head? == some ')' || [';', ';'].isPrefixOf text ||
      endings.contains word || (single && text.head? == some '\n')
    if isEnd then
      if !mayBeEmpty && !text.isEmpty then unexpected
      return before
    let command ← linked steps
    skipBlanks (steps + 1)
    match ← rest with
    | ';' :: ';' :: _ => return afterCommand before command
    | ';' :: _ =>
      skip 1
      commandsFrom single true steps (afterCommand before command)
    | '&' :: _ =>
      skip 1
      commandsFrom single true steps (afterCommand before (.background command))
    | '\n' :: _ =>
      if single then return afterCommand before command
      else commandsFrom single true steps (afterCommand before command)
    | [] | ')' :: _ => return afterCommand before command
    | _ => unexpected

private def commands : Nat → Reading Command
  | 0 => return .nothing
  | steps + 1 => commandsFrom false false steps .nothing

/-- Commands that depend on how the ones before them ended. -/
private def linked : Nat → Reading Command
  | 0 => return .nothing
  | steps + 1 => do
    let first ← pipeline steps
    linkedFrom steps first

private def linkedFrom : Nat → Command → Reading Command
  | 0, left => return left
  | steps + 1, left => do
    skipBlanks (steps + 1)
    match ← rest with
    | '&' :: '&' :: _ =>
      skip 2
      skipLines (steps + 1)
      let right ← pipeline steps
      linkedFrom steps (.both left right)
    | '|' :: '|' :: _ =>
      skip 2
      skipLines (steps + 1)
      let right ← pipeline steps
      linkedFrom steps (.either left right)
    | _ => return left

private def pipeline : Nat → Reading Command
  | 0 => return .nothing
  | steps + 1 => do
    skipBlanks (steps + 1)
    if (← nextWord) == "!" then
      skip 1
      return .negated (← pipelineFrom steps (← command steps))
    let first ← command steps
    pipelineFrom steps first

private def pipelineFrom : Nat → Command → Reading Command
  | 0, left => return left
  | steps + 1, left => do
    skipBlanks (steps + 1)
    match ← rest with
    | '|' :: '|' :: _ => return left
    | '|' :: _ =>
      skip 1
      skipLines (steps + 1)
      let right ← command steps
      pipelineFrom steps (.pipe left right)
    | _ => return left

/-- What follows the test of a choice, up to its end. -/
private def branches : Nat → Reading Command
  | 0 => return .nothing
  | steps + 1 => do
    let test ← commands steps
    expect steps "then"
    let yes ← commands steps
    match ← nextWord with
    | "elif" =>
      skip 4
      return .choice test yes (← branches steps)
    | "else" =>
      skip 4
      let no ← commands steps
      expect steps "fi"
      return .choice test yes no
    | _ =>
      expect steps "fi"
      return .choice test yes .nothing

private def cases : Nat → Reading (List (List Word × Command))
  | 0 => return []
  | steps + 1 => do
    skipLines (steps + 1)
    if (← nextWord) == "esac" then
      skip 4
      return []
    if (← rest).head? == some '(' then skip 1
    let fitting ← patterns steps
    let body ← commandsFrom false true steps .nothing
    match ← rest with
    | ';' :: ';' :: _ =>
      skip 2
      return (fitting, body) :: (← cases steps)
    | _ =>
      if (← nextWord) == "esac" then
        skip 4
        return [(fitting, body)]
      else unexpectedFor ";;"

private def loopBody : Nat → Reading Command
  | 0 => return .nothing
  | steps + 1 => do
    expect steps "do"
    let body ← commands steps
    expect steps "done"
    return body

private def command : Nat → Reading Command
  | 0 => return .nothing
  | steps + 1 => do
    skipBlanks (steps + 1)
    let line := (← get).line
    let word ← nextWord
    let compound (body : Command) : Reading Command := do
      let found ← redirections steps
      return redirected line found body
    match word with
    | "if" =>
      skip 2
      compound (← branches steps)
    | "while" | "until" =>
      skip 5
      let test ← commands steps
      let body ← loopBody steps
      compound (.loop (word == "until") test body)
    | "for" =>
      skip 3
      skipBlanks (steps + 1)
      let name := (← nextWord).toList
      if !isName name then fail .badLoopName
      skip name.length
      skipLines (steps + 1)
      if (← nextWord) == "in" then
        skip 2
        let words ← wordsUntil steps
        match ← rest with
        | ';' :: _ | '\n' :: _ => skip 1
        | _ => unexpected
        compound (.each name (some words) (← loopBody steps))
      else
        if (← rest).head? == some ';' then skip 1
        compound (.each name none (← loopBody steps))
    | "case" =>
      skip 4
      skipBlanks (steps + 1)
      let subject ← partsFrom .plain steps []
      if subject.isEmpty then fail (.unexpected (← token) (some "word"))
      expect steps "in"
      compound (.select subject (← cases steps))
    | "\x7b" =>
      skip 1
      let body ← commands steps
      expect steps "\x7d"
      compound body
    | _ =>
      if keywords.contains word then unexpected
      if (← rest).head? == some '(' then
        skip 1
        let body ← commands steps
        skipLines (steps + 1)
        if (← rest).head? != some ')' then unexpectedFor ")"
        skip 1
        compound (.subshell body)
      else
        let (words, found) ← simpleParts steps [] []
        if words.isEmpty && found.isEmpty then unexpected
        let isAssignment := isName (word.toList.takeWhile (· != '=')) && word.toList.contains '='
        if (← rest).head? == some '(' && words.length == 1 && found.isEmpty && !isAssignment then
          skip 1
          skipBlanks (steps + 1)
          if (← rest).head? != some ')' then unexpectedFor ")"
          skip 1
          if !isName word.toList || specialNames.contains word then fail .badFunctionName
          skipLines (steps + 1)
          return .define word.toList (← command steps)
        return .simple line words found

end

end Reading

private def stepsFor (text : List Char) : Nat := 12 * text.length + 24

/-- The commands of the next line that has any, and what is left of the script behind them; none at
its end. -/
def Cursor.nextLine (cursor : Cursor) :
    Except (ScriptFault × Nat) (Option (Command × Cursor)) := do
  let steps := stepsFor cursor.rest
  let ((), cursor) ← (Reading.skipLines steps).run cursor
  if cursor.rest.isEmpty then return none
  let (command, cursor) ← (Reading.commandsFrom true true steps .nothing).run cursor
  match cursor.rest with
  | [] => return some (command, cursor)
  | '\n' :: rest => return some (command, ⟨rest, cursor.line + 1⟩)
  | _ =>
    let (found, _) ← Reading.token.run cursor
    .error (.unexpected found none, cursor.line)

/-- A text read as the inside of a word. -/
def wordOfText (surroundings : Reading.Surroundings) (text : List Char) : Word :=
  match (Reading.partsFrom surroundings (stepsFor text) []).run ⟨text, 1⟩ with
  | .ok (word, _) => word
  | .error _ => [.literal text true]

end KotlinAudit.Shell
