import KotlinAudit.Console.Status
import KotlinAudit.Decimal.Binary64
import KotlinAudit.FileTree.Update
import KotlinAudit.SourceFile

/-! What a run works on: the file tree, the time, and the protocol of what has been said and done. -/
namespace KotlinAudit

/-- A clock that moves on by a step whenever a timestamp is taken. All times are milliseconds since
the epoch. -/
structure Clock where
  time : Int
  step : Int
deriving DecidableEq, Repr, Inhabited

namespace Clock

/-- The timestamp of a record. -/
def stamp (clock : Clock) : Int := clock.time + clock.step

def afterStamp (clock : Clock) : Clock := { clock with time := clock.stamp }

end Clock

structure Command where
  words : List String
  /-- Where the command runs. -/
  directory : Path
  /-- How many seconds the command may take. -/
  limit : Option Decimal.Binary64
deriving DecidableEq, Repr, Inhabited

inductive Phase
  | discovered (files : Nat)
  | inspected (file : String) (findings : Nat)
  | aggregated (findings : Nat)
deriving DecidableEq, Repr

structure Workspace where
  tree : FileTree
  clock : Clock
  notices : List Notice
  phases : List Phase
  commands : List Command
  /-- Which of the tasks under way at the same time ends next, turn by turn. -/
  turns : List Nat
deriving Inhabited

abbrev Action := StateM Workspace

namespace Workspace

/-- A workspace in which nothing has happened yet. -/
def ofTree (tree : FileTree) (clock : Clock) : Workspace := ⟨tree, clock, [], [], [], []⟩

def say (notice : Notice) : Action Unit :=
  modify fun workspace => { workspace with notices := workspace.notices ++ [notice] }

def sayAll (notices : List Notice) : Action Unit :=
  modify fun workspace => { workspace with notices := workspace.notices ++ notices }

def enter (phase : Phase) : Action Unit :=
  modify fun workspace => { workspace with phases := workspace.phases ++ [phase] }

def enterAll (phases : List Phase) : Action Unit :=
  modify fun workspace => { workspace with phases := workspace.phases ++ phases }

/-- Notes that a command is run. -/
def call (command : Command) : Action Unit :=
  modify fun workspace => { workspace with commands := workspace.commands ++ [command] }

/-- Takes the timestamp of a record. -/
def stamp : Action Int :=
  modifyGet fun workspace =>
    (workspace.clock.stamp, { workspace with clock := workspace.clock.afterStamp })

/-- The time of the last change for a file that is written now, in nanoseconds. -/
def modified (workspace : Workspace) : Int := workspace.clock.time * 1000000

/-- Changes the tree, unless the change is refused. -/
def change (edit : Workspace → Except FileError FileTree) : Action (Except FileError Unit) :=
  modifyGet fun workspace =>
    match edit workspace with
    | .ok tree => (.ok (), { workspace with tree := tree })
    | .error error => (.error error, workspace)

/-- Makes a directory and all directories above it; those that have been made stay even if the last
one is refused. -/
def makeDirectory (path : Path) : Action (Except FileError Unit) :=
  modifyGet fun workspace =>
    let (tree, made) := workspace.tree.makeDirectory path
    (made, { workspace with tree := tree })

/-- Writes a text to a file; its directory is made if it is not there. -/
def writeText (path : Path) (text : String) : Action (Except FileError Unit) := do
  match ← makeDirectory path.parent with
  | .error error => return .error error
  | .ok () => change fun workspace => workspace.tree.write path (.text text) workspace.modified

/-- Adds a text at the end of a file; its directory is made if it is not there. -/
def appendText (path : Path) (text : String) : Action (Except FileError Unit) := do
  match ← makeDirectory path.parent with
  | .error error => return .error error
  | .ok () => change fun workspace => workspace.tree.append path text workspace.modified

end Workspace
end KotlinAudit
