import KotlinAudit.Analyzer
import KotlinAudit.Console.Status
import KotlinAudit.FileTree.Basic

/-! Looking at one file with a row of analyzers. A file that cannot be read yields nothing, and an
analyzer that fails takes only its own findings away. -/
namespace KotlinAudit.Audit

abbrev SourceReader := FileTree → SourceFile → Except Failure (List Char)

def readSource : SourceReader := fun tree file =>
  match tree.readText file.path with
  | .ok text => .ok text.toList
  | .error error => .error (.stated error.message)

structure Inspection where
  findings : List Finding
  notices : List Notice
deriving DecidableEq, Repr

namespace Inspection

def nothing : Inspection := ⟨[], []⟩

def andThen (first second : Inspection) : Inspection :=
  ⟨first.findings ++ second.findings, first.notices ++ second.notices⟩

def all (inspections : List Inspection) : Inspection := inspections.foldr andThen nothing

end Inspection

/-- The findings of an analyzer, none in a file that does not concern it. -/
def examine (isFile : FileTest) (file : SourceFile) (text : List Char) (analyzer : Analyzer) :
    Except Failure (List Finding) := do
  if ← analyzer.appliesTo file then analyzer.analyze isFile file text else return []

def contribution (isFile : FileTest) (file : SourceFile) (text : List Char) (analyzer : Analyzer) :
    Inspection :=
  match examine isFile file text analyzer with
  | .error failure =>
    ⟨[], [.warn ("Error in analyzer " ++ analyzer.id ++ " on " ++ file.relative ++ ": " ++
      failure.message)]⟩
  | .ok [] => .nothing
  | .ok findings =>
    ⟨findings, [.debug (analyzer.id ++ ": " ++ toString findings.length ++ " finding(s) in " ++
      file.relative)]⟩

def inspect (read : SourceReader) (analyzers : List Analyzer) (tree : FileTree)
    (file : SourceFile) : Inspection :=
  match read tree file with
  | .error failure =>
    ⟨[], [.warn ("Error reading file " ++ file.path.text ++ ": " ++ failure.message)]⟩
  | .ok text => .all (analyzers.map (contribution tree.hasFile file text))

end KotlinAudit.Audit
