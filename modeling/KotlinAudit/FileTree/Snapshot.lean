import KotlinAudit.FileTree.Update
import KotlinAudit.Json.Basic

/-! Trees as lists of entries. An entry has a `path` and what stands there: a `text`, octets in `hex`,
the target of a `link`, or nothing but a directory (`dir`). Files have the milliseconds of their last
change in `mtime_ms`. -/
namespace KotlinAudit.FileTree

private def textOf (entry : Json) (key : String) : Option String :=
  match entry.field? key with
  | some (.text value) => some value
  | _ => none

private def hexDigit (c : Char) : Nat := if c.isDigit then c.toNat - 48 else c.toLower.toNat - 87

def octetsOfHex : List Char → List UInt8
  | high :: low :: rest => (hexDigit high * 16 + hexDigit low).toUInt8 :: octetsOfHex rest
  | _ => []

/-- When an entry was last changed, in nanoseconds. -/
def modifiedOf (entry : Json) : Int :=
  match entry.field? "mtime_ms" with
  | some (.int millis) => millis * 1000000
  | _ => 0

inductive Put
  | directory
  | link (target : Path)
  | file (content : Content)

def Put.ofEntry (entry : Json) : Put :=
  match textOf entry "link", textOf entry "hex" with
  | some target, _ => link (Path.ofText target)
  | _, some hex => file (.ofOctets ⟨(octetsOfHex hex.toList).toArray⟩)
  | _, _ =>
    match entry.field? "dir" with
    | some (.bool true) => directory
    | _ => file (.text ((textOf entry "text").getD ""))

/-- A change after which the tree may be another one even if the change is refused. -/
def change (tree : FileTree) : Except FileError FileTree → FileTree × Except FileError Unit
  | .ok changed => (changed, .ok ())
  | .error error => (tree, .error error)

/-- The tree after an entry has been added; the directories above it are made. -/
def addEntry (tree : FileTree) (entry : Json) : FileTree × Except FileError Unit :=
  let path := tree.here.join (Path.ofText ((textOf entry "path").getD ""))
  match Put.ofEntry entry, tree.makeDirectory path.parent with
  | .directory, _ => tree.makeDirectory path
  | _, (tree, .error error) => (tree, .error error)
  | .link target, (tree, .ok ()) => change tree (tree.makeLink path target)
  | .file content, (tree, .ok ()) => change tree (tree.write path content (modifiedOf entry))

/-- The tree of some entries, with an empty directory to start from. -/
def ofEntries (here : Path) (entries : List Json) : Except FileError FileTree := do
  let (tree, made) := (empty here).makeDirectory here
  made
  entries.foldlM (fun tree entry => do
    let (tree, added) := addEntry tree entry
    added
    return tree) tree

private def hexChar (n : Nat) : Char := if n < 10 then Char.ofNat (48 + n) else Char.ofNat (87 + n)

def hexOfOctets (octets : List UInt8) : List Char :=
  octets.flatMap fun octet => [hexChar (octet.toNat / 16), hexChar (octet.toNat % 16)]

def fileEntry (path : Path) (content : Content) (modified : Int) : Json :=
  let held := match content with
    | .text text => ("text", Json.text text)
    | .binary octets => ("hex", Json.text (String.ofList (hexOfOctets octets.toList)))
  .object [("path", .text path.text), held, ("mtime_ms", .int (Int.fdiv modified 1000000))]

mutual

def entriesAt (path : Path) : Node → List Json
  | .file content modified => [fileEntry path content modified]
  | .link target => [.object [("path", .text path.text), ("link", .text target.text)]]
  | .directory nodes =>
    .object [("path", .text path.text), ("dir", .bool true)] :: entriesBelow path nodes

def entriesBelow (path : Path) : List (String × Node) → List Json
  | [] => []
  | (name, node) :: rest => entriesAt (path.child name) node ++ entriesBelow path rest

end

/-- The entries of a whole tree; directories come before what they hold. -/
def entries (tree : FileTree) : List Json := entriesAt ⟨1, []⟩ tree.root

end KotlinAudit.FileTree
