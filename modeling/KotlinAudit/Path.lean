import KotlinAudit.Text.CaseMapping
import KotlinAudit.Text.Scan

/-! Paths as lists of names. Writing a path drops empty names and single dots; two dots stay, as
only a file tree knows what they lead to. -/
namespace KotlinAudit

structure Path where
  /-- How many slashes a path starts with: none, one or exactly two. -/
  slashes : Nat
  names : List String
deriving DecidableEq, Repr, Inhabited

namespace Path

def ofText (text : String) : Path :=
  let chars := text.toList
  let slashes := (chars.takeWhile (· == '/')).length
  let names := (Text.words (· == '/') chars).map String.ofList
  ⟨if slashes = 2 then 2 else min slashes 1, names.filter (· != ".")⟩

def isAbsolute (path : Path) : Bool := path.slashes != 0

/-- The written form; the empty relative path is a dot. -/
def text (path : Path) : String :=
  if path.slashes = 0 && path.names.isEmpty then "."
  else String.ofList (List.replicate path.slashes '/') ++ "/".intercalate path.names

/-- What `other` means seen from `path`. -/
def join (path other : Path) : Path :=
  if other.isAbsolute then other else ⟨path.slashes, path.names ++ other.names⟩

def child (path : Path) (name : String) : Path := ⟨path.slashes, path.names ++ [name]⟩

def parent (path : Path) : Path := ⟨path.slashes, path.names.dropLast⟩

/-- The last name, empty for a path without names. -/
def name (path : Path) : String := path.names.getLast?.getD ""

/-- Splits a name before its last dot, unless the dot is its first or last character. -/
def splitName (name : List Char) : List Char × List Char :=
  let reversed := name.reverse
  let tail := reversed.takeWhile (· != '.')
  match reversed.drop tail.length with
  | [] | [_] => (name, [])
  | _ :: front => if tail.isEmpty then (name, []) else (front.reverse, '.' :: tail.reverse)

def stem (path : Path) : String := String.ofList (splitName path.name.toList).1

/-- The suffix of the name in lower case, without dots in front. -/
def extension (path : Path) : String :=
  String.ofList (Text.lower ((splitName path.name.toList).2.dropWhile (· == '.')))

def withName (path : Path) (name : String) : Path := path.parent.child name

/-- The way from `base` down to `path`, when `path` lies below it or is the same. -/
def relativeTo? (base path : Path) : Option Path :=
  if base.slashes = path.slashes && base.names.isPrefixOf path.names then
    some ⟨0, path.names.drop base.names.length⟩
  else none

end Path
end KotlinAudit
