import KotlinAudit.Keyed
import KotlinAudit.Path
import KotlinAudit.Text.Lines
import KotlinAudit.Text.Quoted

/-! Trees of files, directories and links, and what looking at a path in them finds. -/
namespace KotlinAudit

inductive Content
  | text (text : String)
  | binary (octets : ByteArray)
deriving Inhabited

namespace Content

def ofOctets (octets : ByteArray) : Content :=
  match String.fromUTF8? octets with
  | some found => text found
  | none => binary octets

/-- The count of octets. -/
def size : Content → Nat
  | text content => content.utf8ByteSize
  | binary octets => octets.size

def append (added : String) : Content → Content
  | text content => text (content ++ added)
  | binary octets => ofOctets (octets ++ added.toUTF8)

end Content

inductive Node
  /-- A file with the time of its last change in nanoseconds since the epoch. -/
  | file (content : Content) (modified : Int)
  | directory (entries : List (String × Node))
  | link (target : Path)
deriving Inhabited

namespace Node

def isFile : Node → Bool
  | file _ _ => true
  | _ => false

def isDirectory : Node → Bool
  | directory _ => true
  | _ => false

mutual

def linkCount : Node → Nat
  | file _ _ => 0
  | link _ => 1
  | directory entries => linkCountOf entries

def linkCountOf : List (String × Node) → Nat
  | [] => 0
  | (_, node) :: rest => linkCount node + linkCountOf rest

end

/-- The node below a directory that some names lead to; links are not followed. -/
def at? : List String → Node → Option Node
  | [], node => some node
  | name :: rest, directory entries =>
    match entries.lookup name with
    | some child => at? rest child
    | none => none
  | _ :: _, _ => none

end Node

inductive FileCause
  | missing | present | notDirectory | isDirectory | nameTooLong | tooManyLinks
  /-- Following the links of the path comes back to a link that is being followed. -/
  | circular
  /-- The path has a NUL in it, and no system is asked about such a path. -/
  | nul
deriving DecidableEq, Repr

structure FileError where
  cause : FileCause
  path : Path
deriving DecidableEq, Repr

namespace FileError

private def refusal? : FileCause → Option (Nat × String)
  | .missing => some (2, "No such file or directory")
  | .present => some (17, "File exists")
  | .notDirectory => some (20, "Not a directory")
  | .isDirectory => some (21, "Is a directory")
  | .nameTooLong => some (36, "File name too long")
  | .tooManyLinks => some (40, "Too many levels of symbolic links")
  | .circular | .nul => none

/-- Whether the system itself has refused the use. -/
def isRefusal (error : FileError) : Bool := (refusal? error.cause).isSome

def message (error : FileError) : String :=
  let shown := String.ofList (Text.quoted error.path.text.toList)
  match refusal? error.cause with
  | some (number, phrase) => "[Errno " ++ toString number ++ "] " ++ phrase ++ ": " ++ shown
  | none =>
    if error.cause = .circular then "Symlink loop from " ++ shown else "embedded null byte"

def parts (error : FileError) : String :=
  match refusal? error.cause with
  | some (number, phrase) =>
    "OSError(" ++ toString number ++ ", " ++ String.ofList (Text.quoted phrase.toList) ++ ")"
  | none => error.message

end FileError

/-- A whole tree, and the directory that relative paths start from. -/
structure FileTree where
  root : Node
  here : Path
deriving Inhabited

namespace FileTree

def empty (here : Path) : FileTree := ⟨.directory [], here⟩

/-- How many links the system follows on the way to a file. -/
def maxLinks : Nat := 40

/-- The most octets of a name. -/
def maxNameSize : Nat := 255

/-- The most octets of a path. -/
def maxPathSize : Nat := 4095

/-- The path as seen from the root of the tree. -/
def absolute (tree : FileTree) (path : Path) : Path := tree.here.join path

/-- Why a path is refused before anything is looked up. -/
def refusal? (path : Path) : Option FileCause :=
  if path.text.toList.contains '\x00' then some .nul
  else if maxPathSize < path.text.utf8ByteSize then some .nameTooLong
  else none

/-- A part of the way that is left: a name, or the end of what a link stands for. -/
inductive Step
  | name (name : String)
  | linkEnd (link : List String)

def Step.name? : Step → Option String
  | .name text => some text
  | .linkEnd _ => none

/-- Two dots lead back, whatever stands before them. -/
def withoutDots (names : List String) : List String :=
  (names.foldl (fun place name => if name = ".." then place.tail else name :: place) []).reverse

/-- Follows the way that is left from a place, which is kept from the end backwards: two dots lead
back, a link leads to its target, and a name that is not there is kept as it is. Links are known with
the place that they have led to, none while they are still being followed; where such a link is met
again, nothing more is followed. -/
def resolveFrom (root : Node) (links : Nat) (known : List (List String × Option (List String)))
    (place : List String) : List Step → List String
  | [] => place.reverse
  | .linkEnd link :: rest => resolveFrom root links (Keyed.put link (some place) known) place rest
  | .name name :: rest =>
    if name = ".." then resolveFrom root links known place.tail rest
    else match root.at? (name :: place).reverse, known.lookup (name :: place), links with
      | some (.link _), some (some found), links => resolveFrom root links known found rest
      | some (.link target), none, links + 1 =>
        resolveFrom root links (Keyed.put (name :: place) none known)
          (if target.isAbsolute then [] else place)
          (target.names.map .name ++ .linkEnd (name :: place) :: rest)
      | some (.link _), _, _ =>
        withoutDots ((name :: place).reverse ++ rest.filterMap Step.name?)
      | _, _, links => resolveFrom root links known (name :: place) rest
termination_by steps => (links, steps.length)

/-- Follows names from a place that must be there, as `resolveFrom` does. -/
def findFrom (root : Node) (links : Nat) (place : List String) :
    List String → Except FileCause (List String)
  | [] => if (root.at? place.reverse).isSome then .ok place else .error .missing
  | name :: rest =>
    match root.at? place.reverse with
    | some (.directory entries) =>
      if name = ".." then findFrom root links place.tail rest
      else if maxNameSize < name.utf8ByteSize then .error .nameTooLong
      else match entries.lookup name, links with
        | none, _ => .error .missing
        | some (.link _), 0 => .error .tooManyLinks
        | some (.link target), links + 1 =>
          findFrom root links (if target.isAbsolute then [] else place) (target.names ++ rest)
        | some _, links => findFrom root links (name :: place) rest
    | some (.file _ _) => .error .notDirectory
    | _ => .error .missing
termination_by names => (links, names.length)

/-- The names that lead to what stands at a path. -/
def find (tree : FileTree) (path : Path) : Except FileCause (List String) :=
  let path := tree.absolute path
  match refusal? path with
  | some cause => .error cause
  | none => (findFrom tree.root maxLinks [] path.names).map List.reverse

/-- The absolute path without links and double dots, whether there is something or not. -/
def resolve (tree : FileTree) (path : Path) : Except FileError Path :=
  if refusal? path = some .nul then .error ⟨.nul, path⟩
  else
    let steps := (tree.absolute path).names.map Step.name
    let resolved : Path := ⟨1, resolveFrom tree.root tree.root.linkCount [] [] steps⟩
    match tree.find resolved with
    | .error .tooManyLinks => .error ⟨.circular, resolved⟩
    | _ => .ok resolved

def node (tree : FileTree) (path : Path) : Except FileError Node :=
  match tree.find path with
  | .error cause => .error ⟨cause, path⟩
  | .ok names =>
    match tree.root.at? names with
    | some found => .ok found
    | none => .error ⟨.missing, path⟩

/-- What stands at a path, if there is anything; names that are too long cannot even be asked for. -/
def node? (tree : FileTree) (path : Path) : Except FileError (Option Node) :=
  match tree.node path with
  | .ok node => .ok (some node)
  | .error error => if error.cause = .nameTooLong then .error error else .ok none

def has (tree : FileTree) (path : Path) : Except FileError Bool :=
  (tree.node? path).map Option.isSome

def hasFile (tree : FileTree) (path : Path) : Except FileError Bool :=
  (tree.node? path).map (·.any Node.isFile)

def hasDirectory (tree : FileTree) (path : Path) : Except FileError Bool :=
  (tree.node? path).map (·.any Node.isDirectory)

def content (tree : FileTree) (path : Path) : Except FileError Content :=
  match tree.node path with
  | .error error => .error error
  | .ok (.file content _) => .ok content
  | .ok _ => .error ⟨.isDirectory, path⟩

end FileTree

inductive ReadError
  | refused (error : FileError)
  /-- The octets of the file are no text. -/
  | notText
deriving DecidableEq, Repr

def ReadError.message : ReadError → String
  | .refused error => error.message
  | .notText => "'utf-8' codec can't decode the octets of the file"

/-- The text of a file with line feeds as its only line breaks. -/
def FileTree.readText (tree : FileTree) (path : Path) : Except ReadError String :=
  match tree.content path with
  | .error error => .error (.refused error)
  | .ok (.binary _) => .error .notText
  | .ok (.text text) => .ok (String.ofList (Text.withLineFeeds text.toList))

end KotlinAudit
