import KotlinAudit.Shell.Builtin

/-! Running scripts, and starting commands that run them. Every part of a script that is run uses up a step;
a script without an end runs out of steps, and waits for ever. -/
namespace KotlinAudit.Shell

namespace Evaluation

open Step Builtin

def deepest : Nat := 1000

/-- How a script ends that has no end. -/
private def neverEnds : Step Unit := modify fun state =>
  { state with deeds := .wait endless :: state.deeds, flow := .leave }

private def isOnward : Step Bool := return (← get).flow == .onward

private def lookUp (name : List Char) : Step (Option (List Char)) := do
  let state ← get
  match name with
  | ['?'] => return some (toString state.status).toList
  | ['$'] => return some state.processNumber
  | ['!'] => return some ((state.latestJob.map toString).getD "").toList
  | ['#'] => return some (toString state.arguments.length).toList
  | ['-'] => return some (optionsTold state.options)
  | ['*'] | ['@'] => return some (Text.join [' '] state.arguments)
  | _ =>
    if name.all Text.isAsciiDigit then
      match Decimal.natOfDigits name with
      | 0 => return some state.name
      | n + 1 => return state.arguments[n]?
    else return state.value? name

private def fragment (octets : List Char) (quoted : Bool) : List Fragment :=
  if quoted then [.kept octets true] else [.cut octets]

/-- All arguments, each a field of its own where they are quoted. -/
private def allArguments (name : List Char) (quoted : Bool) : Step (List Fragment) := do
  let state ← get
  match quoted, name with
  | true, ['@'] =>
    if state.arguments.isEmpty then return [.vanishing]
    else return (state.arguments.map fun argument => Fragment.kept argument true).intersperse .next
  | true, _ =>
    let separator := (state.value? "IFS".toList).getD [' ']
    return [.kept (Text.join (separator.take 1) state.arguments) true]
  | false, _ => return (state.arguments.map Fragment.cut).intersperse (.cut (state.separators.take 1))

private def octetsOfFragments (fragments : List Fragment) : List Char :=
  fragments.flatMap Fragment.octets

/-- A word of the form of a name, an equals sign and a value. -/
private def assignment? (word : Word) : Option (List Char × Word) :=
  match word with
  | .literal octets false :: rest =>
    let name := octets.takeWhile (· != '=')
    if Reading.isName name && name.length < octets.length then
      let value := octets.drop (name.length + 1)
      some (name, if value.isEmpty then rest else .literal value false :: rest)
    else none
  | _ => none

/-- Sets the places of redirections. It is told whether all could be done. -/
private def redirectTo (descriptor : Nat) (path : List Char) (appends : Bool) : Step Bool := do
  let sink : Sink ← match String.ofList path with
    | "/dev/null" => pure .nowhere
    | "/dev/stdout" | "/dev/fd/1" => sinkOf 1
    | "/dev/stderr" | "/dev/fd/2" => sinkOf 2
    | _ =>
      if !appends then modify fun state => state.store path []
      pure (.file path)
  let parent := (path.reverse.dropWhile (· != '/')).reverse
  let place := Place.ofPath (if path.contains '/' then path else '.' :: '/' :: path)
  let isKnown := !path.contains '/' || Place.ofPath parent == .directory ||
    "./".toList.isPrefixOf path
  if place == .directory then
    complain (message "cannot create " ++ path ++ message ": Is a directory")
    return false
  else if !isKnown then
    complain (message "cannot create " ++ path ++ message ": Directory nonexistent")
    return false
  else
    modify fun state => state.lead descriptor sink
    return true

mutual

private def expand : Nat → Word → Step (List Fragment)
  | 0, _ => do
    neverEnds
    return []
  | steps + 1, word => do
    let mut found : List Fragment := []
    for part in word do
      if ← isOnward then
        found := found ++ (← expandPart steps part)
    return found

private def expandPart : Nat → Part → Step (List Fragment)
  | 0, _ => do
    neverEnds
    return []
  | steps + 1, part =>
    match part with
    | .literal octets quoted => return [.kept octets quoted]
    | .badParameter => do
      giveUp (message "Bad substitution")
      return []
    | .outputOf script quoted => do
      let level := (← get).level + 1
      let part : Step Unit := do
        runText steps script
        runEnd steps
      let copy ← apart part fun state => state.withoutTraps.lead 1 (.pipe level)
      takeOver copy level true
      modify fun state => { state with
        input := copy.input
        status := copy.status
        flow := match copy.flow with
          | .killed signal => .killed signal
          | _ => state.flow }
      return fragment (Text.trimRight (· == '\n') (piped copy level)) quoted
    | .arithmetic expression quoted => do
      let text := octetsOfFragments (← expand steps (wordOfText .here expression))
      let state ← get
      let values := state.bindings.map fun (name, binding) => (name, binding.value)
      match (Expression.read text).bind fun found => found.eval values with
      | .ok (value, after) =>
        for (name, changed) in (after.take (after.length - values.length)).reverse do
          bound name changed
        return fragment (toString value).toList quoted
      | .error fault =>
        giveUp (message (fault.message text))
        return []
    | .parameter name use quoted => do
      let value ← lookUp name
      let isAll := name == ['@'] || name == ['*']
      let shown (value : List Char) : Step (List Fragment) :=
        if isAll then allArguments name quoted else return fragment value quoted
      let replacement (word : List Char) : Step (List Fragment) := do
        let word := wordOfText (if quoted then .here else .plain) word
        expand steps word
      match use with
      | .value =>
        match value with
        | some value => shown value
        | none =>
          if (← get).hasOption 'u' then
            giveUp (name ++ message ": parameter not set")
            return []
          else return fragment [] quoted
      | .length => return fragment (toString (value.getD []).length).toList quoted
      | .without atEnd longest pattern =>
        let pattern := (← replacement pattern).flatMap Fragment.pattern
        return fragment (withoutFitting atEnd longest pattern (value.getD [])) quoted
      | .instead action emptyToo word =>
        let hasNone := isAll && (← get).arguments.isEmpty
        let isThere := match value with
          | some value => !(emptyToo && value.isEmpty) && !hasNone
          | none => false
        match action, isThere with
        | '+', true => replacement word
        | '+', false => return fragment [] quoted
        | _, true => shown (value.getD [])
        | '-', false => replacement word
        | '=', false =>
          let value := octetsOfFragments (← replacement word)
          bound name value
          return fragment value quoted
        | _, false =>
          let text := octetsOfFragments (← replacement word)
          let default := if emptyToo then "parameter not set or null" else "parameter not set"
          giveUp (name ++ message ": " ++ (if text.isEmpty then message default else text))
          return []

private def expandText : Nat → Word → Step (List Char)
  | 0, _ => do
    neverEnds
    return []
  | steps + 1, word => return octetsOfFragments (← expand steps word)

private def expandAll : Nat → List Word → Step (List (List Char))
  | 0, _ => do
    neverEnds
    return []
  | steps + 1, words => do
    let mut found : List (List Char) := []
    for word in words do
      if ← isOnward then
        let fragments ← expand steps word
        found := found ++ fields (← get).separators fragments
    return found

/-- Does redirections one after the other; it is told whether all could be done. -/
private def redirect : Nat → List Redirection → Step Bool
  | 0, _ => do
    neverEnds
    return false
  | _, [] => return true
  | steps + 1, redirection :: rest => do
    let isDone ← match redirection with
      | .here text expands => do
        let input ← if expands then expandText steps (wordOfText .here text) else pure text
        modify fun state => { state with input }
        pure true
      | .read target => do
        let path ← expandText steps target
        let call : Call := ⟨[], [], (← get).input, (← get).files⟩
        match call.content path with
        | .ok input =>
          modify fun state => { state with input }
          pure true
        | .error reason =>
          let reason := if reason == message "No such file or directory" then message "No such file"
            else reason
          complain (message "cannot open " ++ path ++ message ": " ++ reason)
          pure false
      | .write descriptor target => do redirectTo descriptor (← expandText steps target) false
      | .append descriptor target => do redirectTo descriptor (← expandText steps target) true
      | .duplicate descriptor target => do
        let text ← expandText steps target
        if text == ['-'] then
          modify fun state => state.close descriptor
          pure true
        else if text.isEmpty || !text.all Text.isAsciiDigit then
          giveUp (message "Syntax error: Bad fd number")
          pure false
        else
          let found := Decimal.natOfDigits text
          match (← get).sinks.lookup found with
          | some sink =>
            modify fun state => state.lead descriptor sink
            pure true
          | none =>
            complain (text ++ message ": Bad file descriptor")
            pure false
    if isDone && (← isOnward) then redirect steps rest else return false

/-- Runs a text as a script, line by line. -/
private def runText : Nat → List Char → Step Unit
  | 0, _ => neverEnds
  | steps + 1, text => do runLines steps ⟨text, (← get).line⟩

private def runLines : Nat → Cursor → Step Unit
  | 0, _ => neverEnds
  | steps + 1, cursor => do
    match cursor.nextLine with
    | .error (fault, line) =>
      modify fun state => { state with line }
      giveUp (message ("Syntax error: " ++ fault.message))
    | .ok none => pure ()
    | .ok (some (command, cursor)) =>
      run steps command
      if ← isOnward then runLines steps cursor

/-- Runs a command whose failure ends nothing. -/
private def runGuarded : Nat → Command → Step Unit
  | 0, _ => neverEnds
  | steps + 1, command => do
    let before := (← get).guarded
    modify fun state => { state with guarded := true }
    run steps command
    modify fun state => { state with guarded := before }

/-- Ends a script after a failure where it is to end. -/
private def run : Nat → Command → Step Unit
  | 0, _ => neverEnds
  | steps + 1, command => do
    if (← get).hasOption 'n' then return
    match command with
    | .nothing => pure ()
    | .simple line words redirections =>
      modify fun state => { state with line }
      runSimple steps words redirections
      let state ← get
      if state.hasOption 'e' && state.status != 0 && !state.guarded && state.flow == .onward then
        flows .leave
    | .sequence left right =>
      run steps left
      if ← isOnward then run steps right
    | .both left right =>
      runGuarded steps left
      if (← isOnward) && (← get).status == 0 then run steps right
    | .either left right =>
      runGuarded steps left
      if (← isOnward) && (← get).status != 0 then run steps right
    | .negated command =>
      runGuarded steps command
      modify fun state => { state with status := if state.status == 0 then 1 else 0 }
    | .background command =>
      let copy ← apart (run steps command) fun state =>
        { state.withoutTraps with input := [], jobs := [] }
      modify fun state =>
        let number := ((state.latestJob.getD 5000) + 1)
        let signal := match copy.flow with
          | .killed signal => some signal
          | _ => none
        { state with
          jobs := ⟨number, copy.allDeeds, copy.status, signal⟩ :: state.jobs
          latestJob := some number
          status := 0
          files := copy.files }
    | .pipe left right =>
      let level := (← get).level + 1
      let copy ← apart (run steps left) fun state => state.withoutTraps.lead 1 (.pipe level)
      let input := piped copy level
      let state ← get
      let last ← apart (run steps right) fun state =>
        { state.withoutTraps with input, files := copy.files }
      takeOver copy level (last.input.isEmpty || input.isEmpty)
      takeOver last level true
      modify fun after => { after with
        input := copy.input
        status := last.status
        flow := match last.flow, copy.flow with
          | .killed signal, _ | _, .killed signal => .killed signal
          | _, _ => state.flow }
      let state ← get
      if state.hasOption 'e' && state.status != 0 && !state.guarded && state.flow == .onward then
        flows .leave
    | .subshell body =>
      let level := (← get).level + 1
      let part : Step Unit := do
        run steps body
        runEnd steps
      let copy ← apart part State.withoutTraps
      takeOver copy level true
      modify fun state => { state with
        input := copy.input
        status := copy.status
        flow := match copy.flow with
          | .killed signal => .killed signal
          | _ => state.flow }
      let state ← get
      if state.hasOption 'e' && state.status != 0 && !state.guarded && state.flow == .onward then
        flows .leave
    | .redirected body line redirections =>
      let before ← get
      modify fun state => { state with line }
      if ← redirect steps redirections then run steps body else ended 2
      let takesInput := redirections.any fun redirection => match redirection with
        | .here _ _ | .read _ => true
        | _ => false
      modify fun state => { state with
        sinks := before.sinks, input := if takesInput then before.input else state.input }
    | .choice test yes no =>
      runGuarded steps test
      if ← isOnward then
        if (← get).status == 0 then run steps yes
        else
          ended 0
          run steps no
    | .loop isUntil test body =>
      modify fun state => { state with loops := state.loops + 1 }
      runLoop steps isUntil test body 0
      modify fun state => { state with loops := state.loops - 1 }
    | .each name words body =>
      let values ← match words with
        | some words => expandAll steps words
        | none => pure (← get).arguments
      if ← isOnward then
        ended 0
        modify fun state => { state with loops := state.loops + 1 }
        runEach steps name values body
        modify fun state => { state with loops := state.loops - 1 }
    | .select word cases =>
      let text ← expandText steps word
      ended 0
      runCases steps text cases
    | .define name body =>
      modify fun state => { state with
        functions := (name, body) :: state.functions.filter fun (other, _) => other != name
        status := 0 }

private def runLoop : Nat → Bool → Command → Command → Int → Step Unit
  | 0, _, _, _, _ => neverEnds
  | steps + 1, isUntil, test, body, last => do
    runGuarded steps test
    if ← isOnward then
      if ((← get).status == 0) != isUntil then
        run steps body
        if ← goesOn then runLoop steps isUntil test body (← get).status
      else ended last
    else
      let _ ← goesOn

private def runEach : Nat → List Char → List (List Char) → Command → Step Unit
  | 0, _, _, _ => neverEnds
  | _, _, [], _ => pure ()
  | steps + 1, name, value :: values, body => do
    bound name value
    run steps body
    if ← goesOn then runEach steps name values body

/-- Whether a loop goes on after its body; what ends only this loop is over then. -/
private def goesOn : Step Bool := do
  match (← get).flow with
  | .onward => return true
  | .stopLoop count =>
    flows (if count ≤ 1 then .onward else .stopLoop (count - 1))
    return false
  | .nextLoop count =>
    flows (if count ≤ 1 then .onward else .nextLoop (count - 1))
    return count ≤ 1
  | _ => return false

private def runCases : Nat → List Char → List (List Word × Command) → Step Unit
  | 0, _, _ => neverEnds
  | _, _, [] => pure ()
  | steps + 1, text, (patterns, body) :: rest => do
    let mut fitting := false
    for pattern in patterns do
      if !fitting then
        let fragments ← expand steps pattern
        fitting := fitsPattern (fragments.flatMap Fragment.pattern) text
    if fitting then run steps body else runCases steps text rest

private def runSimple : Nat → List Word → List Redirection → Step Unit
  | 0, _, _ => neverEnds
  | steps + 1, words, redirections => do
    let assignments := (words.takeWhile fun word => (assignment? word).isSome).filterMap assignment?
    let found ← expandAll steps (words.drop assignments.length)
    if !(← isOnward) then return
    if found.isEmpty then
      ended 0
      for (name, word) in assignments do
        if ← isOnward then
          let value ← expandText steps word
          if (← get).hasOption 'x' then say (message "+ " ++ name ++ '=' :: value ++ ['\n'])
          bound name value
      if ← isOnward then
        let state ← get
        if !(← redirect steps redirections) then ended 2
        modify fun after => { after with sinks := state.sinks, input := state.input }
    else
      let state ← get
      let mut given : List (List Char × List Char) := []
      for (name, word) in assignments do
        given := given ++ [(name, ← expandText steps word)]
      if let some (name, _) := (given.find? fun (name, _) => state.isFixed name) then
        giveUp (name ++ message ": is read only")
        return
      if (← get).hasOption 'x' then
        say (message "+ " ++ Text.join [' '] (given.map (fun (name, value) => name ++ '=' :: value) ++
          found) ++ ['\n'])
      let name := String.ofList (found.headD [])
      let state ← get
      let isFunction := (state.functions.lookup (found.headD [])).isSome
      if !(← redirect steps redirections) then
        ended 2
        modify fun after => { after with sinks := state.sinks, input := state.input }
        if Builtin.isSpecial name && !isFunction then flows .leave
      else
        for (name, value) in given do
          modify fun state => state.put name ⟨value, true, false⟩
        runNamed steps found
        let keeps := name == "exec" && found.length == 1
        let takesInput := redirections.any fun redirection => match redirection with
          | .here _ _ | .read _ => true
          | _ => false
        if !keeps then modify fun after => { after with
          sinks := state.sinks
          input := if takesInput then state.input else after.input }
        if !given.isEmpty && !(Builtin.isSpecial name && !isFunction) then modify fun after =>
          { after with bindings := state.bindings }

/-- Runs a command by its name: a function, a command of the shell itself or a program. -/
private def runNamed : Nat → List (List Char) → Step Unit
  | 0, _ => neverEnds
  | _, [] => pure ()
  | steps + 1, name :: arguments => do
    match (← get).functions.lookup name with
    | some body =>
      let before ← get
      if deepest ≤ before.depth then
        giveUp (message ("Maximum function recursion depth (" ++ toString deepest ++ ") reached"))
      else
        modify fun state =>
          { state with arguments, depth := before.depth + 1, hidden := [], loops := 0 }
        run steps body
        modify fun state => { state.reveal with
          arguments := before.arguments
          depth := before.depth
          hidden := before.hidden
          loops := before.loops
          flow := if state.flow == .back then .onward else state.flow }
    | none =>
      if Builtin.names.contains (String.ofList name) then
        let before := (← get).spoken
        modify fun state => { state with spoken := before ++ name ++ message ": " }
        runBuiltin steps (String.ofList name) arguments
        modify fun state => { state with spoken := before }
      else runProgram steps (name :: arguments)

private def runBuiltin : Nat → String → List (List Char) → Step Unit
  | 0, _, _ => neverEnds
  | steps + 1, name, arguments => do
    match name with
    | "eval" =>
      ended 0
      runText steps (Text.join [' '] arguments)
    | "exec" =>
      if !arguments.isEmpty then
        runProgram steps arguments
        if ← isOnward then flows .leave
    | "." =>
      match arguments with
      | [] => pure ()
      | path :: _ =>
        let state ← get
        match Call.content ⟨[], [], state.input, state.files⟩ path with
        | .ok text =>
          runText steps text
          if (← get).flow == .back then flows .onward
        | .error _ =>
          giveUp (if path.contains '/' then message "cannot open " ++ path ++ message ": No such file"
            else path ++ message ": not found")
    | "kill" => runKill steps arguments
    | "command" => runCommandWord steps arguments
    | _ =>
      let _ ← Builtin.run? name arguments

/-- Sends signals. The shell itself is the only receiver that is known. -/
private def runKill : Nat → List (List Char) → Step Unit
  | 0, _ => neverEnds
  | steps + 1, arguments => do
    ended 0
    match SignalRequest.ofWords arguments with
    | .wrong text => giveUp text
    | .names [] => write (message ("".intercalate (allSignals.map (· ++ "\n"))))
    | .names (word :: _) =>
      if word.all Text.isAsciiDigit then
        let n := Decimal.natOfDigits word
        let name := (signalName? (if 128 < n then n - 128 else n)).getD ""
        write (message (name ++ "\n"))
      else giveUp (message "Illegal number: " ++ word)
    | .send signal targets =>
      for target in targets do
        let state ← get
        if !target.all Text.isAsciiDigit then giveUp (message "Illegal number: " ++ target)
        else if target == state.processNumber || target == ['0'] then
          match reaction state signal with
          | .ignores => pure ()
          | .dies => flows (.killed signal)
          | .halts => neverEnds
          | .does action => runText steps action
        else
          let number := Decimal.natOfDigits target
          if !state.jobs.any (·.number == number) then
            complain (message "No such process\n")
            ended 1
          else if !harmless.contains signal then modify fun state => { state with
            jobs := state.jobs.map fun job =>
              if job.number == number then ⟨number, [], 128 + signal, some signal⟩ else job }

/-- A command without functions, or where it is found. -/
private def runCommandWord : Nat → List (List Char) → Step Unit
  | 0, _ => neverEnds
  | _, [] => ended 0
  | steps + 1, word :: rest => do
    if word == ['-', 'v'] then
      let name := rest.headD []
      let text := String.ofList name
      if names.contains text || Reading.keywords.contains text ||
          ((← get).functions.lookup name).isSome then
        write (name ++ ['\n'])
        ended 0
      else match Place.ofWord name with
        | .program found =>
          write (if name.contains '/' then name ++ ['\n'] else message ("/usr/bin/" ++ found ++ "\n"))
          ended 0
        | _ => ended 127
    else if word == ['-', 'V'] then describe rest
    else
      modify fun state => { state with spoken := [] }
      if Builtin.names.contains (String.ofList word) then
        modify fun state => { state with spoken := word ++ message ": " }
        runBuiltin steps (String.ofList word) rest
      else runProgram steps (word :: rest)

private def runProgram : Nat → List (List Char) → Step Unit
  | 0, _ => neverEnds
  | _, [] => pure ()
  | steps + 1, word :: arguments => do
    match Place.ofWord word with
    | .program name => runChild steps name word arguments
    | .directory | .file =>
      complain (word ++ message ": Permission denied")
      ended (if word.isEmpty then 127 else 126)
    | .tooLong =>
      complain (word ++ message ": File name too long")
      ended 127
    | .missing | .blocked =>
      complain (word ++ message ": not found")
      ended 127

/-- Runs a program and tells how a signal has ended it. -/
private def runChild : Nat → String → List Char → List (List Char) → Step Unit
  | 0, _, _, _ => neverEnds
  | steps + 1, name, word, arguments => do
    runNew steps name word arguments
    let state ← get
    match state.flow with
    | .killed signal =>
      flows .onward
      childKilled signal
    | _ => pure ()

/-- Runs a program; a signal that ends it is kept as the flow. -/
private def runNew : Nat → String → List Char → List (List Char) → Step Unit
  | 0, _, _, _ => neverEnds
  | steps + 1, name, word, arguments => do
    let state ← get
    let call : Call := ⟨word, arguments, state.input, state.files⟩
    match Program.run? name call with
    | some run =>
      match state.unwritable? 1 with
      | some reason =>
        if (outputOf run.events).isEmpty then follow run
        else follow (call.complain (message ("write error: " ++ reason)) 1)
      | none => follow run
    | none =>
      match name with
      | "sh" | "dash" | "bash" =>
        runShell steps word arguments
      | "env" => runEnv steps call arguments
      | "nice" | "nohup" => runStarted steps call arguments
      | "timeout" =>
        match arguments with
        | limit :: words@(_ :: _) =>
          match Program.seconds? limit with
          | some limit => runWithin steps limit call words
          | none => follow (call.refuse (message "invalid time interval " ++ inQuotes limit) 125)
        | _ => follow { call.refuse [] 125 with events :=
            [.errors (message "Try '" ++ word ++ message " --help' for more information.\n")] }
      | "xargs" =>
        let words := if arguments.isEmpty then ["echo".toList] else arguments
        runStarted steps { call with input := [] } (words ++ Text.words Text.isSpace call.input)
      | "pwd" =>
        write ((state.value? "PWD".toList).getD [] ++ ['\n'])
        ended 0
      | _ => ended 0

/-- Runs a program that another one starts in its place. -/
private def runStarted : Nat → Call → List (List Char) → Step Unit
  | 0, _, _ => neverEnds
  | _, call, [] => follow (call.refuse (message "missing operand") 125)
  | steps + 1, call, word :: arguments => do
    match Place.ofWord word with
    | .program name => runNew steps name word arguments
    | .directory | .file =>
      follow (call.complain (inQuotes word ++ message ": Permission denied") 126)
    | _ => follow (call.complain (inQuotes word ++ message ": No such file or directory") 127)

private def runEnv : Nat → Call → List (List Char) → Step Unit
  | 0, _, _ => neverEnds
  | _, _, [] => do
    for (name, binding) in (← get).bindings do
      if binding.exported then write (name ++ '=' :: binding.value ++ ['\n'])
    ended 0
  | steps + 1, call, word :: rest => do
    let before ← get
    if word == ['-', 'i'] || word == ['-'] then
      modify fun state => { state with bindings := [] }
      runEnv steps call rest
    else if word.take 1 == ['-'] then follow (call.refuseOption word 125)
    else if word.contains '=' then
      let name := word.takeWhile (· != '=')
      modify fun state => state.put name ⟨word.drop (name.length + 1), true, false⟩
      runEnv steps call rest
    else runStarted steps call (word :: rest)
    modify fun state => { state with bindings := before.bindings }

private def runWithin : Nat → Rat → Call → List (List Char) → Step Unit
  | 0, _, _, _ => neverEnds
  | steps + 1, limit, call, words => do
    let level := (← get).level + 1
    let copy ← apart (runStarted steps call words) id
    let events := copy.deeds.reverse
    let mut left := limit
    let mut kept : List Deed := []
    let mut isOver := false
    for deed in events do
      if !isOver then
        match deed with
        | .wait seconds =>
          if limit != 0 && left ≤ seconds then
            isOver := true
            kept := .wait left :: kept
          else
            left := left - seconds
            kept := deed :: kept
        | deed => kept := deed :: kept
    takeOver { copy with deeds := kept } (level + 1) true
    modify fun state => { state with
      input := copy.input, status := if isOver then 124 else copy.status,
      flow := if isOver then state.flow else copy.flow }

private def runShell : Nat → List Char → List (List Char) → Step Unit
  | 0, _, _ => neverEnds
  | steps + 1, word, arguments => do
    let outer ← get
    let call : Call := ⟨word, [], outer.input, outer.files⟩
    match invocation call arguments with
    | .error text =>
      say (word ++ message ": 0: " ++ text ++ ['\n'])
      ended 2
    | .ok found =>
      set { State.start found.name with
        arguments := found.arguments
        bindings := outer.bindings.filter fun (_, binding) => binding.exported
        options := found.options
        input := found.input
        sinks := outer.sinks
        files := outer.files
        deeds := outer.deeds
        level := outer.level
        number := outer.number + 1 }
      runText steps found.script
      runEnd steps
      let inner ← get
      set { outer with
        status := inner.status % 256
        input := inner.input
        files := inner.files
        deeds := inner.allDeeds
        flow := match inner.flow with
          | .killed signal => .killed signal
          | _ => outer.flow }

/-- Does what is to be done at the end of a shell. -/
private def runEnd : Nat → Step Unit
  | 0 => neverEnds
  | steps + 1 => do
    let inner ← get
    let isKilled := match inner.flow with
      | .killed _ => true
      | _ => false
    if !isKilled then
      if let some action := inner.traps.lookup "EXIT" then
        modify fun state => { state with flow := .onward, line := 1 }
        runText steps action
        if ← isOnward then ended inner.status

end

private def steps : Nat := 6000

def trace (name : String) (word : List Char) (arguments : List (List Char)) : Trace :=
  let ((), state) := (runNew steps name word arguments).run (State.start word)
  let events := state.deeds.reverse.filterMap fun deed => match deed with
    | .write .output octets => some (Event.output octets)
    | .write .errors octets => some (.errors octets)
    | .write _ _ => none
    | .wait seconds => some (.wait seconds)
  let exitCode : Int := match state.flow with
    | .killed signal => -(signal : Int)
    | _ => state.status
  ⟨events, exitCode⟩

end Evaluation

/-- The longest word that the system passes on, in octets. -/
def longestWord : Nat := 131071

/-- What is left of a command that may run for some seconds. -/
def run (words : List (List Char)) (limit : Option Decimal.Binary64) : Except Fault Outcome := do
  match words.map octetsOf with
  | [] => .error .noProgram
  | word :: arguments =>
    if words.any (·.contains '\x00') then .error .nul
    else
      let name ← (Place.ofWord word).toProgram
      if (word :: arguments).any fun word => longestWord < word.length then .error .wordTooLong
      else (Evaluation.trace name word arguments).outcome limit

end KotlinAudit.Shell
