import KotlinAudit.Shell.State

/-! The commands of a shell itself that run no further commands. -/
namespace KotlinAudit.Shell.Builtin

open Step

def isSpecial (name : String) : Bool := specialNames.contains name

/-- All commands of a shell itself, those that run further commands among them. -/
def names : List String :=
  [".", ":", "[", "break", "cd", "command", "continue", "echo", "eval", "exec", "exit", "export",
    "false", "hash", "jobs", "kill", "local", "printf", "pwd", "read", "readonly", "return", "set",
    "shift", "test", "times", "trap", "true", "type", "umask", "unset", "wait"]

/-- The largest number that a command of the shell takes. -/
def largestNumber : Nat := 2147483647

private def countOf (words : List (List Char)) (default : Nat) : Step (Option Nat) :=
  match words with
  | [] => return some default
  | word :: _ =>
    let number := Decimal.natOfDigits word
    if !word.isEmpty && word.all Text.isAsciiDigit && number ≤ largestNumber then return some number
    else do
      giveUp (message "Illegal number: " ++ word)
      return none

private def counted (words : List (List Char)) (default : Nat) (next : Nat → Step Unit) :
    Step Unit := do
  match ← countOf words default with
  | some count => next count
  | none => pure ()

private def condition (name : String) (words : List (List Char)) : Step Unit := do
  let isBracketed := name == "["
  let inside := if isBracketed then words.dropLast else words
  let answer := if isBracketed && words.getLast? != some [']'] then .error .missingBracket
    else Condition.answer false (inside.length + 1) inside
  match answer with
  | .ok answer => ended (if answer then 0 else 1)
  | .error fault =>
    complain (message fault.shellMessage)
    ended 2

/-- A path from the root without detours. -/
private def straight (path : List Char) : List Char :=
  let names := (Text.splitAll (· == '/') path).foldl (fun names name =>
    if name.isEmpty || name == ['.'] then names
    else if name == ['.', '.'] then names.dropLast
    else names ++ [name]) []
  '/' :: Text.join ['/'] names

/-- Goes to another directory; a shell that has been elsewhere before can go back there. -/
private def changeDirectory (words : List (List Char)) : Step Unit := do
  let state ← get
  let here := (state.value? "PWD".toList).getD []
  let before := state.value? "OLDPWD".toList
  let given := words.headD ((state.value? "HOME".toList).getD [])
  let target := if given == ['-'] then before.getD [] else given
  let path := if target.isEmpty then here
    else if target.head? != some '/' && before.isSome then here ++ '/' :: target
    else if target.contains '/' then target
    else '.' :: '/' :: target
  if Place.ofPath path == .directory then
    set ((state.bind "OLDPWD".toList here).bind "PWD".toList (straight path))
    if given == ['-'] then write (straight path ++ ['\n'])
    ended 0
  else
    complain (message "can't cd to " ++ target)
    ended 2

/-- Passes names on, or fixes them; a word may give a value as well. -/
private def declare (name : String) (words : List (List Char)) : Step Unit := do
  ended 0
  for word in words do
    let key := word.takeWhile (· != '=')
    if Reading.isName key then
      let state ← get
      let before := (state.bindings.lookup key).getD ⟨[], false, false⟩
      let value := if key.length < word.length then word.drop (key.length + 1) else before.value
      let binding : Binding :=
        ⟨value, before.exported || name == "export", before.fixed || name == "readonly"⟩
      set (state.put key binding)
    else if word.head? != some '-' then giveUp (key ++ message ": bad variable name")

/-- Hides bindings until the running function is over. -/
private def hide (words : List (List Char)) : Step Unit := do
  ended 0
  if (← get).depth == 0 then giveUp (message "not in a function")
  else
    for word in words do
      let key := word.takeWhile (· != '=')
      if Reading.isName key then
        modify fun state =>
          { state with hidden := (key, state.bindings.lookup key) :: state.hidden }
        if key.length < word.length then bound key (word.drop (key.length + 1))
      else giveUp (key ++ message ": bad variable name")

private def unset (words : List (List Char)) : Step Unit := do
  ended 0
  let (options, names) := words.span fun word => word.head? == some '-' && word.length > 1
  match (options.flatMap (·.drop 1)).find? fun letter => letter != 'f' && letter != 'v' with
  | some letter => giveUp (message "Illegal option -" ++ [letter])
  | none =>
    for name in names do
      let state ← get
      if options.getLast? == some ['-', 'f'] then
        set { state with functions := state.functions.filter fun (other, _) => other != name }
      else if !Reading.isName name then giveUp (name ++ message ": bad variable name")
      else if state.isFixed name then giveUp (name ++ message ": is read only")
      else set (state.release name)

def optionNames : List (String × Char) :=
  [("errexit", 'e'), ("noglob", 'f'), ("ignoreeof", 'I'), ("interactive", 'i'), ("monitor", 'm'),
    ("noexec", 'n'), ("stdin", 's'), ("xtrace", 'x'), ("verbose", 'v'), ("vi", 'V'), ("emacs", 'E'),
    ("noclobber", 'C'), ("allexport", 'a'), ("notify", 'b'), ("nounset", 'u'), ("privileged", 'p'),
    ("nolog", 'L'), ("debug", 'D')]

def optionLetters : List Char := ((optionNames.take 16).map (·.2))

/-- Options as they are told, in the order in which they are told. -/
def optionsTold (options : List Char) : List Char := "fIimnsvxVECabuep".toList.filter options.contains

/-- Options after some of them have been switched, and the words that follow. -/
structure Switched where
  options : List Char
  rest : List (List Char)
  /-- Whether the words after the options replace the arguments even if there are none. -/
  replaces : Bool
  /-- Whether the options are asked for, and whether as commands. -/
  asked : Option Bool

/-- Switches the options of a word on or off; a letter for a name takes the name from the words after
it. It fails with what is said of an option that there is not. -/
private def switch (known : List Char) (on : Bool) (options : List Char) :
    List Char → List (List Char) → Except (List Char) Switched
  | [], rest => .ok ⟨options, rest, false, none⟩
  | 'o' :: letters, [] =>
    (switch known on options letters []).map ({ · with asked := some (!on) })
  | 'o' :: letters, name :: rest =>
    match optionNames.lookup (String.ofList name) with
    | some letter => switch known on (turned letter) letters rest
    | none => .error (message "Illegal option -o " ++ name)
  | letter :: letters, rest =>
    if known.contains letter then switch known on (turned letter) letters rest
    else .error (message "Illegal option -" ++ [letter])
where
  turned (letter : Char) : List Char :=
    if on then letter :: options else options.filter (· != letter)

/-- Switches the options that some words begin with. -/
def switched (known : List Char) :
    Nat → List Char → List (List Char) → Except (List Char) Switched
  | steps + 1, options, word :: rest =>
    match word with
    | ['-', '-'] => .ok ⟨options, rest, true, none⟩
    | ['-'] => .ok ⟨options.filter fun letter => letter != 'x' && letter != 'v', rest, false, none⟩
    | sign :: letters =>
      if sign == '-' || sign == '+' then do
        let first ← switch known (sign == '-') options letters rest
        let others ← switched known steps first.options first.rest
        return { others with asked := first.asked.orElse fun _ => others.asked }
      else .ok ⟨options, word :: rest, false, none⟩
    | [] => .ok ⟨options, [] :: rest, false, none⟩
  | _, options, rest => .ok ⟨options, rest, false, none⟩

structure Invocation where
  script : List Char
  name : List Char
  arguments : List (List Char)
  options : List Char
  input : List Char

/-- What the words ask for with which a new shell is called: its script stands in a word, in a file or
in its input. -/
def invocation (call : Call) (words : List (List Char)) : Except (List Char) Invocation := do
  let found ← switched ('c' :: optionLetters) (words.length + 1) [] words
  let options := found.options.filter (· != 'c')
  match found.options.contains 'c', found.options.contains 's', found.rest with
  | true, _, [] => .error (message "-c requires an argument")
  | true, _, script :: rest => .ok ⟨script, rest.headD call.name, rest.tail, options, call.input⟩
  | false, true, rest => .ok ⟨call.input, call.name, rest, options, []⟩
  | false, false, [] => .ok ⟨call.input, call.name, [], options, []⟩
  | false, false, path :: rest =>
    match call.content path with
    | .ok script => .ok ⟨script, path, rest, options, call.input⟩
    | .error _ => .error (message "cannot open " ++ path ++ message ": No such file")

private def optionLines (asCommands : Bool) (options : List Char) : List Char :=
  let lines := optionNames.map fun (name, letter) =>
    let isOn := options.contains letter
    if asCommands then "set " ++ (if isOn then "-o " else "+o ") ++ name ++ "\n"
    else name ++ String.ofList (List.replicate (16 - name.length) ' ') ++
      (if isOn then "on\n" else "off\n")
  message ((if asCommands then "" else "Current option settings\n") ++ "".intercalate lines)

private def setOptions (words : List (List Char)) : Step Unit := do
  let state ← get
  ended 0
  match switched optionLetters (words.length + 1) state.options words with
  | .error text => giveUp text
  | .ok found =>
    modify fun state => { state with
      options := found.options
      arguments := if found.replaces || !found.rest.isEmpty then found.rest else state.arguments }
    if let some asCommands := found.asked then write (optionLines asCommands found.options)

/-- The line that the input begins with, what follows it, and whether the line is ended. A line goes
on behind a backslash at its end. -/
private def readLine (raw : Bool) : List Char → List Char × List Char × Bool
  | [] => ([], [], false)
  | '\\' :: c :: rest =>
    if raw && c == '\n' then (['\\'], rest, true)
    else
      let (line, after, isEnded) := readLine raw rest
      (if raw then '\\' :: c :: line else if c == '\n' then line else c :: line, after, isEnded)
  | '\n' :: rest => ([], rest, true)
  | c :: rest =>
    let (line, after, isEnded) := readLine raw rest
    (c :: line, after, isEnded)

/-- The values of some names from a line; the last one gets what is left of it. -/
private def shares (separators : List Char) : List (List Char) → List Char →
    List (List Char × List Char)
  | [], _ => []
  | [name], line => [(name, Text.trimBy separators.contains line)]
  | name :: names, line =>
    let line := line.dropWhile separators.contains
    let value := line.takeWhile fun c => !separators.contains c
    (name, value) :: shares separators names (line.drop value.length)

private def read (words : List (List Char)) : Step Unit := do
  let raw := words.head? == some ['-', 'r']
  let keys := if raw then words.tail else words
  if keys.isEmpty then
    complain (message "arg count")
    ended 2
  else
    let state ← get
    let (line, input, isEnded) := readLine raw state.input
    modify fun state => { state with input }
    for (key, value) in shares state.separators keys line do
      bound key value
    ended (if isEnded then 0 else 1)

/-- The name of a moment at which something can be done. -/
private def momentName? (word : List Char) : Option String :=
  if word == ['0'] || word.map Char.toUpper == "EXIT".toList then some "EXIT"
  else (signal? word).bind signalName?

/-- A text in quotes that a shell reads as it is. -/
private def requoted : Nat → List Char → List Char
  | 0, text => text
  | steps + 1, text =>
    let (plain, rest) := text.span (· != '\'')
    let (marks, after) := rest.span (· == '\'')
    '\'' :: plain ++ '\'' :: (if marks.isEmpty then [] else
      '"' :: marks ++ '"' :: (if after.isEmpty then [] else requoted steps after))

/-- Sets what is done at signals and at the end; without words it is told. -/
private def setTraps (words : List (List Char)) : Step Unit := do
  ended 0
  if words.isEmpty then
    for name in "EXIT" :: signals.map (·.1) do
      if let some action := (← get).traps.lookup name then
        write (message "trap -- " ++ requoted (action.length + 1) action ++ message (" " ++ name ++ "\n"))
  else
    let (action, moments) := match words with
      | action :: moments@(_ :: _) => (action, moments)
      | moments => (['-'], moments)
    for word in moments do
      match momentName? word with
      | none =>
        say (message "trap: " ++ word ++ message ": bad trap\n")
        ended 1
      | some key => modify fun state =>
        let others := state.traps.filter fun (other, _) => other != key
        { state with traps := if action == ['-'] then others else (key, action) :: others }

/-- Tells what words stand for as names of commands. -/
def describe (words : List (List Char)) : Step Unit := do
  ended 0
  for word in words do
    let name := String.ofList word
    let is (kind : String) : Step Unit := write (word ++ message (" is " ++ kind ++ "\n"))
    if Reading.keywords.contains name then is "a shell keyword"
    else if ((← get).functions.lookup word).isSome then is "a shell function"
    else if isSpecial name then is "a special shell builtin"
    else if names.contains name then is "a shell builtin"
    else match Place.ofWord word with
      | .program found => is (if word.contains '/' then name else "/usr/bin/" ++ found)
      | _ =>
        write (word ++ message ": not found\n")
        ended 127

private def lookFor (words : List (List Char)) : Step Unit := do
  ended 0
  for word in words do
    match Place.ofWord word with
    | .program _ => pure ()
    | _ =>
      if !names.contains (String.ofList word) then
        complain (word ++ message ": not found")
        ended 1

/-- The rights that new files do not get, as three octal digits or more. -/
private def setMask (words : List (List Char)) : Step Unit := do
  ended 0
  match words with
  | [] =>
    let digits := Nat.toDigits 8 (← get).mask
    write (List.replicate (4 - digits.length) '0' ++ digits ++ ['\n'])
  | word :: _ =>
    if word.all fun c => '0' ≤ c && c ≤ '7' then
      modify fun state =>
        { state with mask := (word.foldl (fun value c => value * 8 + (c.toNat - 48)) 0) % 512 }
    else giveUp (message "Illegal number: " ++ word)

private def await (words : List (List Char)) : Step Unit := do
  ended 0
  if words.isEmpty then
    modify fun state => { state with deeds := state.allDeeds, jobs := [] }
  else
    for word in words do
      match ← countOf [word] 0 with
      | none => pure ()
      | some number =>
        let state ← get
        match state.jobs.find? (·.number == number) with
        | none => ended 127
        | some job =>
          set { state with
            deeds := job.deeds ++ state.deeds, jobs := state.jobs.filter (·.number != number) }
          match job.signal with
          | some signal => childKilled signal
          | none => ended job.status

/-- Runs a command of the shell itself; it is told whether there is such a command here. -/
def run? (name : String) (words : List (List Char)) : Step Bool := do
  let state ← get
  match name with
  | ":" | "true" | "times" | "jobs" => ended 0
  | "false" => ended 1
  | "echo" | "printf" =>
    let call : Call :=
      ⟨state.name ++ message (": " ++ toString state.line ++ ": " ++ name), words, state.input,
        state.files⟩
    let run := if name == "printf" then Program.printf .shell call
      else { Run.writing (Program.echoed .shell words) with unread := state.input }
    if (outputOf run.events).isEmpty || (state.unwritable? 1).isNone then follow run
    else
      complain (message (name ++ ": I/O error"))
      ended 1
  | "test" | "[" => condition name words
  | "exit" => counted words state.status.toNat fun count => do
    ended count
    flows .leave
  | "return" => counted words state.status.toNat fun count => do
    ended count
    flows .back
  | "break" | "continue" => counted words 1 fun count => do
    ended 0
    if count == 0 then giveUp (message "Illegal number: 0")
    else if 0 < state.loops then flows (if name == "break" then .stopLoop count else .nextLoop count)
  | "cd" => changeDirectory words
  | "pwd" =>
    let wrong := words.find? fun word => !(["-L", "-P"].contains (String.ofList word))
    match wrong with
    | some ('-' :: letter :: _) => giveUp (message "Illegal option -" ++ [letter])
    | _ =>
      write ((state.value? "PWD".toList).getD [] ++ ['\n'])
      ended 0
  | "umask" => setMask words
  | "hash" => lookFor words
  | "export" | "readonly" => declare name words
  | "local" => hide words
  | "unset" => unset words
  | "set" => setOptions words
  | "shift" => counted words 1 fun count => do
    if state.arguments.length < count then giveUp (message "can't shift that many")
    else
      modify fun state => { state with arguments := state.arguments.drop count }
      ended 0
  | "read" => read words
  | "trap" => setTraps words
  | "type" => describe words
  | "wait" => await words
  | _ => return false
  return true

inductive Reaction
  | ignores
  | dies
  | halts
  | does (action : List Char)

def reaction (state : State) (signal : Nat) : Reaction :=
  match (signalName? signal).bind (List.lookup · state.traps), signal with
  | _, 9 => .dies
  | _, 19 => .halts
  | some [], _ => .ignores
  | some action, _ => .does action
  | none, signal =>
    if harmless.contains signal then .ignores
    else if halting.contains signal then .halts
    else .dies

/-- The names of all signals, those without a name by their numbers. -/
def allSignals : List String :=
  let real := (List.range 16).map fun n => if n == 0 then "RTMIN" else "RTMIN+" ++ toString n
  let more := (List.range 15).map fun n => if n == 14 then "RTMAX" else "RTMAX-" ++ toString (14 - n)
  "0" :: (signals.map fun (name, n, _) => if n == 16 then toString n else name) ++
    ["32", "33"] ++ real ++ more

inductive SignalRequest
  | send (signal : Nat) (targets : List (List Char))
  /-- The names of signals are asked for. -/
  | names (words : List (List Char))
  | wrong (text : List Char)

def SignalRequest.ofWords (words : List (List Char)) : SignalRequest :=
  let targets (signal : Option Nat) (rest : List (List Char)) (wrong : List Char) : SignalRequest :=
    match signal with
    | none => .wrong wrong
    | some signal =>
      if rest.isEmpty then .wrong (message
        "Usage: kill [-s sigspec | -signum | -sigspec] [pid | job]... or\nkill -l [exitstatus]")
      else .send signal rest
  match words with
  | ['-', 's'] :: word :: rest =>
    targets (signal? word) rest (message "invalid signal number or name: " ++ word)
  | ['-', 'l'] :: rest => .names rest
  | ('-' :: word) :: rest => targets (signal? word) rest (message "Illegal option -" ++ word.take 1)
  | rest => targets (some 15) rest []

end KotlinAudit.Shell.Builtin
