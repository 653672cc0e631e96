import KotlinAudit.CommandLine.Program
import KotlinAudit.FileTree.Snapshot

/-! The command-line program. Its arguments are a request. Standard input holds the file tree as one
document with the fields `here` (the current directory), `time` (milliseconds since the epoch),
`processors` and `entries`; standard error gets the entries of the tree that the request leaves. -/
namespace KotlinAudit.Main

def integerOf (document : Json) (key : String) : Option Int :=
  match document.field? key with
  | some (.int value) => some value
  | _ => none

def workspaceOf (document : Json) : Except FileError Workspace := do
  let here := match document.field? "here" with
    | some (.text here) => Path.ofText here
    | _ => ⟨1, []⟩
  let entries := match document.field? "entries" with
    | some (.array entries) => entries
    | _ => []
  let tree ← FileTree.ofEntries here entries
  return .ofTree tree ⟨(integerOf document "time").getD 0, 1⟩

def usage : String := "Usage: codeqa analyze|analyzers|compare [OPTIONS] [ROOT]"

def serve (arguments : List String) (document : Json) : IO UInt32 := do
  match CommandLine.Request.ofWords arguments, workspaceOf document with
  | .error refusal, _ =>
    IO.println usage
    return refusal.exitCode.toNat.toUInt32
  | _, .error error =>
    IO.eprintln error.message
    return 2
  | .ok request, .ok workspace =>
    let (ending, after) := request.serve (integerOf document "processors") workspace
    IO.eprintln (String.ofList (Json.array after.tree.entries).compact)
    match ending with
    | .ok outcome =>
      for line in outcome.lines do IO.println line
      return outcome.exitCode.toNat.toUInt32
    | .error _ => return CommandLine.failureCode.toNat.toUInt32

end KotlinAudit.Main

open KotlinAudit in
def main (arguments : List String) : IO UInt32 := do
  let input ← (← IO.getStdin).readToEnd
  match Json.read .document input.toList with
  | .ok document => Main.serve arguments document
  | .error fault =>
    IO.eprintln ("The file tree cannot be read: " ++ fault.message)
    return 2
