import KotlinAudit.Glob
import KotlinAudit.SourceFile

/-! Which paths belong to an analysis: those with a source extension that no glob excludes. -/
namespace KotlinAudit.Discovery

structure Selection where
  excludes : List String
  /-- Extensions in lower case without a dot. -/
  extensions : List String
deriving DecidableEq, Repr

namespace Selection

/-- Extensions may be given with dots in front and in any case. -/
def ofOptions (excludes extensions : List String) : Selection :=
  ⟨excludes, extensions.map fun extension =>
    String.ofList (Text.lower (extension.toList.dropWhile (· == '.')))⟩

/-- Build results, generated sources and the directories of tools. -/
def defaultExcludes : List String :=
  ["**/build/**", "**/.gradle/**", "**/generated/**", "**/.idea/**", "**/.git/**", "**/bin/**",
    "**/out/**"]

def defaultExtensions : List String := ["kt", "kts"]

/-- Whether a relative path is excluded; globs see it with one slash in front. -/
def isExcluded (selection : Selection) (relative : List Char) : Except Pattern.SyntaxError Bool :=
  Glob.matchesAny (selection.excludes.map String.toList) (Layer.anchored relative)

/-- A directory is left out when its path is excluded with or without a slash at its end. -/
def skipsDirectory (selection : Selection) (relative : List Char) :
    Except Pattern.SyntaxError Bool := do
  if ← selection.isExcluded relative then return true
  else selection.isExcluded (relative ++ ['/'])

def isSource (selection : Selection) (extension : String) : Bool :=
  selection.extensions.contains extension

def admits (selection : Selection) (file : SourceFile) : Except Pattern.SyntaxError Bool := do
  if ← selection.isExcluded file.relative.toList then return false
  else return selection.isSource file.extension

end Selection
end KotlinAudit.Discovery
