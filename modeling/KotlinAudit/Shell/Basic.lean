import KotlinAudit.Decimal.Binary64
import KotlinAudit.Text.Lines
import KotlinAudit.Text.Utf8

/-! External commands and what is left of them: an exit code and two texts, whether a command ended
by itself or had to be stopped because its time was over. While a command runs its texts are held
octet by octet, each octet as the character with its number. -/
namespace KotlinAudit.Shell

open Decimal (Binary64)

inductive Event
  | output (octets : List Char)
  | errors (octets : List Char)
  | wait (seconds : Rat)
deriving Repr

/-- A run that nobody stops. -/
structure Trace where
  events : List Event
  exitCode : Int
deriving Repr

/-- Longer than anybody waits. -/
def endless : Rat := 1000000000000

inductive Fault
  /-- There is no such program. -/
  | missing
  /-- What the command names is no program that may be run. -/
  | noPermission
  /-- A name on the way to the program is no directory. -/
  | notDirectory
  | nameTooLong
  /-- A word is longer than the system passes on. -/
  | wordTooLong
  /-- A word has a NUL in it. -/
  | nul
  /-- The command has no words. -/
  | noProgram
  /-- The time is longer than the system can wait. -/
  | limitTooLong
  | limitInfinite
  /-- What the command has written is no text. -/
  | notText
deriving DecidableEq, Repr

structure Outcome where
  exitCode : Int
  output : List Char
  errors : List Char
deriving DecidableEq, Repr

def octetsOf (text : List Char) : List Char := (Text.Utf8.write text).map Char.ofNat

def textOf (octets : List Char) : Except Fault (List Char) :=
  match Text.Utf8.read? (octets.map Char.toNat) with
  | some text => .ok text
  | none => .error .notText

/-- The events before the time is over, and whether it is over. -/
def within (limit : Rat) : List Event → List Event × Bool
  | [] => ([], limit ≤ 0)
  | .wait seconds :: rest =>
    if limit ≤ seconds then ([], true)
    else
      let (events, isOver) := within (limit - seconds) rest
      (.wait seconds :: events, isOver)
  | event :: rest =>
    if limit ≤ 0 then ([], true)
    else
      let (events, isOver) := within limit rest
      (event :: events, isOver)

def outputOf (events : List Event) : List Char :=
  events.flatMap fun event => match event with
    | .output octets => octets
    | _ => []

def errorsOf (events : List Event) : List Char :=
  events.flatMap fun event => match event with
    | .errors octets => octets
    | _ => []

def stoppedCode : Int := 124

/-- The outcome of a command that was stopped: its output is lost, its errors are kept. -/
def stopped (limit : Binary64) (events : List Event) : Except Fault Outcome := do
  let errors ← textOf (errorsOf events)
  let message := ("Command timed out after " ++ limit.toFixed 1 ++ "s").toList
  return ⟨stoppedCode, [], if errors.isEmpty then message else errors ++ '\n' :: message⟩

def Trace.finished (trace : Trace) : Except Fault Outcome := do
  let output ← textOf (outputOf trace.events)
  let errors ← textOf (errorsOf trace.events)
  return ⟨trace.exitCode, Text.withLineFeeds output, Text.withLineFeeds errors⟩

/-- The longest time in seconds that the system can wait. -/
def longestWait : Rat := 2147483647 / 1000

def Trace.outcome (trace : Trace) (limit : Option Binary64) : Except Fault Outcome :=
  match limit with
  | none | some .nan => trace.finished
  | some (.infinite true) => stopped (.infinite true) []
  | some (.infinite false) => .error .limitInfinite
  | some limit@(.finite ..) =>
    let seconds := limit.toRat?.getD 0
    if longestWait < seconds then .error .limitTooLong
    else
      let (events, isOver) := within seconds trace.events
      if isOver then stopped limit events else trace.finished

end KotlinAudit.Shell
