import KotlinAudit.Shell.Fields
import KotlinAudit.Shell.Program
import KotlinAudit.Shell.Reader

/-! What a shell knows and what it has done so far. -/
namespace KotlinAudit.Shell

inductive Sink
  | output | errors
  /-- To who started a part of a script; parts lie within each other. -/
  | pipe (level : Nat)
  | nowhere
  | file (path : List Char)
deriving DecidableEq, Repr

inductive Deed
  | write (sink : Sink) (octets : List Char)
  | wait (seconds : Rat)
deriving Repr

inductive Flow
  | onward
  | leave
  | stopLoop (count : Nat)
  | nextLoop (count : Nat)
  | back
  | killed (signal : Nat)
deriving DecidableEq, Repr

structure Binding where
  value : List Char
  exported : Bool
  fixed : Bool
deriving Repr

structure Job where
  number : Nat
  /-- What it does, the last deed first. -/
  deeds : List Deed
  status : Int
  /-- The signal that has ended it. -/
  signal : Option Nat
deriving Repr

structure State where
  name : List Char
  arguments : List (List Char)
  bindings : List (List Char × Binding)
  functions : List (List Char × Command)
  traps : List (String × List Char)
  options : List Char
  status : Int
  input : List Char
  sinks : List (Nat × Sink)
  files : List (List Char × List Char)
  /-- What has been done, the last deed first. -/
  deeds : List Deed
  /-- What runs beside the script, the latest first. -/
  jobs : List Job
  /-- The number of the latest of them. -/
  latestJob : Option Nat
  flow : Flow
  /-- How deep parts of scripts lie within each other. -/
  level : Nat
  line : Nat
  /-- The number of the shell among those within each other. -/
  number : Nat
  /-- Whether a failure is asked about and ends nothing. -/
  guarded : Bool
  /-- How many loops are being run. -/
  loops : Nat
  /-- How many functions are being run within each other. -/
  depth : Nat
  /-- The bindings that the running function has hidden, the latest first. -/
  hidden : List (List Char × Option Binding)
  /-- The rights that new files do not get. -/
  mask : Nat
  /-- What has been said of a command that is in the wrong place. -/
  spoken : List Char

abbrev Step := StateM State

namespace State

/-- A shell with what another one passes on, or with what every shell has. -/
def start (name : List Char) : State where
  name
  arguments := []
  bindings := [("HOME", "/root"), ("PATH", "/usr/local/bin:/usr/bin:/bin"), ("PWD", "/")].map
    fun (name, value) => (name.toList, ⟨value.toList, true, false⟩)
  functions := []
  traps := []
  options := []
  status := 0
  input := []
  sinks := [(1, .output), (2, .errors)]
  files := []
  deeds := []
  jobs := []
  latestJob := none
  flow := .onward
  level := 0
  line := 1
  number := 1
  guarded := false
  loops := 0
  depth := 0
  hidden := []
  mask := 18
  spoken := []

def value? (state : State) (name : List Char) : Option (List Char) :=
  (state.bindings.lookup name).map (·.value)

/-- The number of a shell as other commands see it. -/
def processNumber (state : State) : List Char := (toString (4000 + state.number)).toList

/-- What separates fields. -/
def separators (state : State) : List Char := (state.value? "IFS".toList).getD [' ', '\t', '\n']

def put (state : State) (name : List Char) (binding : Binding) : State :=
  { state with
    bindings := (name, binding) :: state.bindings.filter fun (other, _) => other != name }

/-- What has been done after all jobs are done as well. -/
def allDeeds (state : State) : List Deed := state.jobs.flatMap (·.deeds) ++ state.deeds

def release (state : State) (name : List Char) : State :=
  { state with bindings := state.bindings.filter fun (other, _) => other != name }

def isFixed (state : State) (name : List Char) : Bool :=
  ((state.bindings.lookup name).map (·.fixed)).getD false

/-- What a copy of a shell has: of what is done at signals, only that some are ignored. -/
def withoutTraps (state : State) : State :=
  { state with traps := state.traps.filter fun (_, action) => action.isEmpty }

/-- Brings back what a function has hidden. -/
def reveal (state : State) : State :=
  state.hidden.foldl (fun state (name, binding) =>
    match binding with
    | some binding => state.put name binding
    | none => state.release name) state

/-- Gives a name a value and keeps whether it is passed on. -/
def bind (state : State) (name value : List Char) : State :=
  state.put name ⟨value, ((state.bindings.lookup name).map (·.exported)).getD false, false⟩

def store (state : State) (path content : List Char) : State :=
  { state with files := (path, content) :: state.files.filter fun (other, _) => other != path }

def close (state : State) (descriptor : Nat) : State :=
  { state with sinks := state.sinks.filter fun (other, _) => other != descriptor }

def lead (state : State) (descriptor : Nat) (sink : Sink) : State :=
  { state with sinks := (descriptor, sink) :: (state.close descriptor).sinks }

/-- Why nothing can be written to a descriptor, if so. -/
def unwritable? (state : State) (descriptor : Nat) : Option String :=
  match state.sinks.lookup descriptor with
  | none => some "Bad file descriptor"
  | some (.file path) => if path == "/dev/full".toList then some "No space left on device" else none
  | some _ => none

def hasOption (state : State) (letter : Char) : Bool := state.options.contains letter

end State

namespace Step

def sinkOf (descriptor : Nat) : Step Sink :=
  return ((← get).sinks.lookup descriptor).getD .nowhere

/-- Writes to a sink. What is written to a file is kept there. -/
def writeTo (sink : Sink) (octets : List Char) : Step Unit :=
  if octets.isEmpty then pure ()
  else modify fun state =>
    match sink with
    | .nowhere => state
    | .file path => state.store path ((state.files.lookup path).getD [] ++ octets)
    | sink => { state with deeds := .write sink octets :: state.deeds }

def write (octets : List Char) : Step Unit := do writeTo (← sinkOf 1) octets

def say (octets : List Char) : Step Unit := do writeTo (← sinkOf 2) octets

def ended (status : Int) : Step Unit := modify fun state => { state with status }

def flows (flow : Flow) : Step Unit := modify fun state => { state with flow }

def complain (text : List Char) : Step Unit := do
  let state ← get
  say (state.name ++ message (": " ++ toString state.line ++ ": ") ++ state.spoken ++ text ++ ['\n'])

def giveUp (text : List Char) : Step Unit := do
  complain text
  ended 2
  flows .leave

/-- Gives a name a value unless it is fixed. -/
def bound (name value : List Char) : Step Unit := do
  let state ← get
  if state.isFixed name then giveUp (name ++ message ": is read only")
  else set (state.bind name value)

/-- Does what the run of a program does. -/
def follow (run : Run) : Step Unit := do
  for event in run.events do
    match event with
    | .output octets => write octets
    | .errors octets => say octets
    | .wait seconds => modify fun state => { state with deeds := .wait seconds :: state.deeds }
  modify fun state => { state with status := run.exitCode, input := run.unread }

/-- The signals that end a shell, with what is said of them. -/
def signals : List (String × Nat × String) :=
  [("HUP", 1, "Hangup"), ("INT", 2, ""), ("QUIT", 3, "Quit"), ("ILL", 4, "Illegal instruction"),
    ("TRAP", 5, "Trace/breakpoint trap"), ("ABRT", 6, "Aborted"), ("BUS", 7, "Bus error"),
    ("FPE", 8, "Floating point exception"), ("KILL", 9, "Killed"),
    ("USR1", 10, "User defined signal 1"), ("SEGV", 11, "Segmentation fault"),
    ("USR2", 12, "User defined signal 2"), ("PIPE", 13, ""), ("ALRM", 14, "Alarm clock"),
    ("TERM", 15, "Terminated"), ("STKFLT", 16, "Stack fault"), ("CHLD", 17, ""), ("CONT", 18, ""),
    ("STOP", 19, ""), ("TSTP", 20, ""), ("TTIN", 21, ""), ("TTOU", 22, ""), ("URG", 23, ""),
    ("XCPU", 24, "CPU time limit exceeded"), ("XFSZ", 25, "File size limit exceeded"),
    ("VTALRM", 26, "Virtual timer expired"), ("PROF", 27, "Profiling timer expired"),
    ("WINCH", 28, ""), ("IO", 29, "I/O possible"), ("PWR", 30, "Power failure"),
    ("SYS", 31, "Bad system call")]

def signalName? (signal : Nat) : Option String :=
  (signals.find? fun (_, n, _) => n == signal).map (·.1)

/-- Signals that end nothing. -/
def harmless : List Nat := [0, 17, 18, 23, 28]

/-- Signals that make a shell wait. -/
def halting : List Nat := [19, 20, 21, 22]

def signal? (text : List Char) : Option Nat :=
  if !text.isEmpty && text.all Text.isAsciiDigit then
    let n := Decimal.natOfDigits text
    if n < 65 then some n else none
  else
    let name := String.ofList (text.map Char.toUpper)
    (signals.lookup name).map (·.1)

/-- The state after a child has been ended by a signal. -/
def childKilled (signal : Nat) : Step Unit := do
  let text := ((signals.find? fun (_, n, _) => n == signal).map (·.2.2)).getD ""
  if text != "" then say (message (text ++ "\n"))
  ended (128 + signal)

/-- Runs a part of a script in a copy of the shell, of which only what it has done is kept. The
first sink leads where the copy writes; the state of the copy is the result. -/
def apart (part : Step Unit) (prepare : State → State) : Step State := do
  let state ← get
  let ((), copy) := part.run (prepare { state with deeds := [], level := state.level + 1 })
  return copy

/-- What a copy has written to a pipe. -/
def piped (copy : State) (level : Nat) : List Char :=
  copy.deeds.reverse.flatMap fun deed => match deed with
    | .write (.pipe found) octets => if found == level then octets else []
    | _ => []

/-- Takes over what a copy has done except what it has written to a pipe. -/
def takeOver (copy : State) (level : Nat) (keepsWaiting : Bool) : Step Unit :=
  modify fun state =>
    let kept := copy.deeds.filter fun deed => match deed with
      | .write sink _ => sink != .pipe level
      | .wait seconds => keepsWaiting || seconds < endless
    { state with deeds := kept ++ state.deeds, jobs := copy.jobs, files := copy.files }

end Step
end KotlinAudit.Shell
