import KotlinAudit.Linter.Call
import KotlinAudit.Shell.Evaluation

/-! Running the external linter as a program of the machine. The report file is empty before. No
result depends on this runner: what is said about the linter holds for all of them. -/
namespace KotlinAudit.Linter

/-- Why the machine does not run a command. Files of the tree are no programs. -/
private def refusal (tree : FileTree) (command : Command) (fault : Shell.Fault) : RunFault :=
  let name := command.words.headD ""
  let shown := String.ofList (Text.quoted name.toList)
  let inTree := name.toList.contains '/' &&
    (tree.has (command.directory.join (Path.ofText name))).toOption.getD false
  match fault with
  | .missing =>
    if inTree then .refused ("[Errno 13] Permission denied: " ++ shown)
    else .missing ("[Errno 2] No such file or directory: " ++ shown)
  | .noPermission => .refused ("[Errno 13] Permission denied: " ++ shown)
  | .notDirectory => .refused ("[Errno 20] Not a directory: " ++ shown)
  | .nameTooLong => .refused ("[Errno 36] File name too long: " ++ shown)
  | .wordTooLong => .refused ("[Errno 7] Argument list too long: " ++ shown)
  | .nul => .broken "ValueError" "embedded null byte"
  | .noProgram => .broken "IndexError" "list index out of range"
  | .limitTooLong => .broken "OverflowError" "timeout is too large"
  | .limitInfinite => .broken "OverflowError" "cannot convert float infinity to integer"
  | .notText => .broken "UnicodeDecodeError" "invalid start byte"

def localRunner : Runner := fun tree command =>
  match Shell.run (command.words.map String.toList) command.limit with
  | .error fault => .error (refusal tree command fault)
  | .ok outcome => .ok ⟨outcome.exitCode, String.ofList outcome.errors, some (.text "")⟩

end KotlinAudit.Linter
