import KotlinAudit.Console.Status
import KotlinAudit.Decimal.Binary64
import KotlinAudit.Discovery.Selection
import KotlinAudit.FileTree.Basic

/-! Walking a directory for source files. In every directory the files come first, then what lies
in its subdirectories, both by name; what is excluded is not walked into. -/
namespace KotlinAudit.Discovery

open Decimal (Binary64)

/-- The milliseconds of a time in nanoseconds. The time goes through a binary number of seconds, so
the last millisecond can get lost. -/
def millisOf (nanoseconds : Int) : Int :=
  let seconds := Binary64.ofRat (Int.fdiv nanoseconds 1000000000)
  let rest := Binary64.ofRat (Int.fmod nanoseconds 1000000000)
  let time := seconds.add ((Binary64.ofDecimal false 1 (-9)).mul rest)
  match (time.mul (.ofRat 1000)).toRat? with
  | some exact => exact.num.tdiv exact.den
  | none => 0

inductive Sighting
  | source (file : SourceFile)
  | skipped (path : Path) (error : FileError)
deriving DecidableEq, Repr

/-- Sightings, unless a glob is no pattern. -/
abbrev Sightings := Except Pattern.SyntaxError (List Sighting)

structure Scanner where
  root : Path
  selection : Selection
deriving DecidableEq, Repr

namespace Scanner

/-- The path below the root, or the whole path of what lies elsewhere. -/
def relative (scanner : Scanner) (path : Path) : String :=
  ((scanner.root.relativeTo? path).getD path).text

def describe (scanner : Scanner) (tree : FileTree) (path : Path) : Sighting :=
  let relative := scanner.relative path
  let described (size : Nat) (modified : Int) : Sighting :=
    .source ⟨path, relative, size, millisOf modified, Layer.detect relative⟩
  match tree.node path with
  | .error error => .skipped path error
  | .ok (.file content modified) => described content.size modified
  | .ok _ => described 0 0

/-- What stands under a name that is no directory. -/
def sightFile (scanner : Scanner) (tree : FileTree) (path : Path) : Sightings := do
  if !scanner.selection.isSource path.extension then return []
  else if ← scanner.selection.isExcluded (scanner.relative path).toList then return []
  else return [scanner.describe tree path]

structure Part where
  name : String
  isDirectory : Bool
  sightings : Sightings

def Part.le (left right : Part) : Bool := Text.le left.name right.name

/-- The sightings of a directory's parts: files first, then the subdirectories that are kept. -/
def together (scanner : Scanner) (path : Path) (parts : List Part) : Sightings := do
  let (directories, files) := (parts.mergeSort Part.le).partition (·.isDirectory)
  let kept ← directories.filterM fun part =>
    (! ·) <$> scanner.selection.skipsDirectory (scanner.relative (path.child part.name)).toList
  let found ← (files ++ kept).mapM (·.sightings)
  return found.flatten

mutual

def walk (scanner : Scanner) (tree : FileTree) (path : Path) : Node → Sightings
  | .directory entries => scanner.together path (walkEntries scanner tree path entries)
  | _ => .ok []

def walkEntries (scanner : Scanner) (tree : FileTree) (path : Path) :
    List (String × Node) → List Part
  | [] => []
  | (name, node) :: rest =>
    let child := path.child name
    let part : Part := match node with
      | .directory entries => ⟨name, true, walk scanner tree child (.directory entries)⟩
      | .file _ _ => ⟨name, false, scanner.sightFile tree child⟩
      | .link _ =>
        -- links to directories are not walked into
        if (tree.node child).toOption.any Node.isDirectory then ⟨name, true, .ok []⟩
        else ⟨name, false, scanner.sightFile tree child⟩
    part :: walkEntries scanner tree path rest

end

end Scanner

def Sighting.source? : Sighting → Option SourceFile
  | source file => some file
  | skipped _ _ => none

def Sighting.notice? : Sighting → Option Notice
  | source _ => none
  | skipped path error => some (.debug ("skipping " ++ path.text ++ ": " ++ error.message))

structure Found where
  files : List SourceFile
  notices : List Notice
deriving DecidableEq, Repr

def Found.ofSightings (sightings : List Sighting) : Found :=
  ⟨sightings.filterMap Sighting.source?, sightings.filterMap Sighting.notice?⟩

inductive DiscoveryError
  | missing (path : Path)
  | notDirectory (path : Path)
  /-- A path could not be asked for. -/
  | place (error : FileError)
  /-- A glob is no pattern. -/
  | glob (error : Pattern.SyntaxError)
deriving DecidableEq, Repr

def DiscoveryError.message : DiscoveryError → String
  | missing path => "Directory does not exist: " ++ path.text
  | notDirectory path => "Path is not a directory: " ++ path.text
  | place error => error.message
  | glob _ => "Invalid glob"

private def placed {α : Type} : Except FileError α → Except DiscoveryError α
  | .ok value => .ok value
  | .error error => .error (.place error)

namespace Scanner

/-- A scanner for the tree below a root, which may be given through links. -/
def ofRoot (tree : FileTree) (root : Path) (selection : Selection) :
    Except DiscoveryError Scanner :=
  placed ((tree.resolve root).map fun root => ⟨root, selection⟩)

def resolve (scanner : Scanner) (tree : FileTree) (path : Path) : Except DiscoveryError Path :=
  placed (tree.resolve (scanner.root.join path))

def scanAt (scanner : Scanner) (tree : FileTree) (path : Path) : Except DiscoveryError Found := do
  match ← placed (tree.node? path) with
  | none => throw (.missing path)
  | some (.directory entries) =>
    match scanner.walk tree path (.directory entries) with
    | .ok sightings => return .ofSightings sightings
    | .error error => throw (.glob error)
  | some _ => throw (.notDirectory path)

def scan (scanner : Scanner) (tree : FileTree) : Except DiscoveryError Found :=
  scanner.scanAt tree scanner.root

def filter (scanner : Scanner) (files : List SourceFile) :
    Except Pattern.SyntaxError (List SourceFile) :=
  files.filterM scanner.selection.admits

/-- The source files that one target stands for: all of a directory, or a single file if a scan of
its directory comes across it. -/
def target (scanner : Scanner) (tree : FileTree) (path : Path) : Except DiscoveryError Found := do
  let path ← scanner.resolve tree path
  if ← placed (tree.hasDirectory path) then scanner.scanAt tree path
  else if !(← placed (tree.hasFile path)) then
    return ⟨[], [.warn ("File not found: " ++ path.text)]⟩
  else
    let found ← scanner.scanAt tree path.parent
    let files := found.files.filter (·.path = path)
    let notices := if files.isEmpty then
        [.debug ("skipping " ++ path.text ++ ": excluded or not a recognised source file")]
      else []
    return ⟨files, found.notices ++ notices⟩

def addNew (files new : List SourceFile) : List SourceFile :=
  new.foldl (fun files file => if files.any (·.path = file.path) then files else files ++ [file]) files

/-- What is said while targets are looked up, and their files or what is wrong with one of them. -/
abbrev Search := List Notice × Except DiscoveryError (List SourceFile)

/-- The files that are left of some targets' after those that earlier targets stand for. -/
def targetsFrom (scanner : Scanner) (tree : FileTree) (files : List SourceFile) :
    List Path → Search
  | [] => ([], .ok files)
  | path :: rest =>
    match scanner.target tree path with
    | .error error => ([], .error error)
    | .ok found =>
      let (notices, outcome) := targetsFrom scanner tree (addNew files found.files) rest
      (found.notices ++ notices, outcome)

/-- The distinct source files that some targets stand for, in order of first appearance. -/
def targets (scanner : Scanner) (tree : FileTree) (paths : List Path) : Search :=
  scanner.targetsFrom tree [] paths

end Scanner
end KotlinAudit.Discovery
