import KotlinAudit.Path
import KotlinAudit.Text.Scan

/-! A source file as discovery describes it, with the architectural layer that the directories of its path
tell. -/
namespace KotlinAudit

inductive Layer
  | data | domain | ui | dependencyInjection | test
deriving DecidableEq, Repr, Inhabited

namespace Layer

def all : List Layer := [data, domain, ui, dependencyInjection, test]

def name : Layer → String
  | data => "data"
  | domain => "domain"
  | ui => "ui"
  | dependencyInjection => "dependency-injection"
  | test => "test"

def ofName? (text : String) : Option Layer := all.find? (·.name == text)

def directories : Layer → List String
  | data => ["data"]
  | domain => ["domain"]
  | ui => ["ui", "presentation"]
  | dependencyInjection => ["di"]
  | test => ["test", "androidTest"]

/-- The relative path with one slash in front, so that every directory stands between two slashes. -/
def anchored (path : List Char) : List Char := '/' :: path.dropWhile (· == '/')

/-- Backslashes separate directories too. -/
def normalized (path : List Char) : List Char := path.map fun c => if c == '\\' then '/' else c

def hasDirectory (path : List Char) (directory : String) : Bool :=
  Text.contains ('/' :: directory.toList ++ ['/']) path

/-- The first layer that has a directory on the path. -/
def detect (path : String) : Option Layer :=
  let path := anchored (normalized path.toList)
  all.find? fun layer => layer.directories.any (hasDirectory path)

end Layer

structure SourceFile where
  path : Path
  /-- The path relative to the project's root, with forward slashes. -/
  relative : String
  size : Nat
  /-- When the file was last changed, in milliseconds since the epoch. -/
  modified : Int
  layer : Option Layer
deriving DecidableEq, Repr, Inhabited

namespace SourceFile

def name (file : SourceFile) : String := file.path.name
def stem (file : SourceFile) : String := file.path.stem
def extension (file : SourceFile) : String := file.path.extension

def isNamed (file : SourceFile) (ends : List String) : Bool :=
  ends.any fun tail => tail.toList.isSuffixOf file.name.toList

def isTest (file : SourceFile) : Bool := file.layer == some .test

end SourceFile
end KotlinAudit
