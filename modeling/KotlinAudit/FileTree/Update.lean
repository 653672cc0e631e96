import KotlinAudit.FileTree.Basic

/-! Changing a tree: writing and deleting files, making directories. A refused change leaves no trace,
but for the directories that have been made for it. -/
namespace KotlinAudit

namespace Node

/-- The entries of a directory with a name set to a node, or with the name gone. -/
def setEntry (name : String) (node : Option Node) : List (String × Node) → List (String × Node)
  | [] => node.toList.map fun node => (name, node)
  | (other, old) :: rest =>
    if other = name then (node.toList.map fun node => (name, node)) ++ rest
    else (other, old) :: setEntry name node rest

/-- The node with something set at the end of some names, where their directories are there. -/
def set (new : Option Node) : List String → Node → Node
  | [], node => node
  | [name], directory entries => directory (setEntry name new entries)
  | name :: rest, directory entries =>
    match entries.lookup name with
    | some child => directory (setEntry name (some (set new rest child)) entries)
    | none => directory entries
  | _, node => node

end Node

namespace FileTree

def set (tree : FileTree) (names : List String) (node : Option Node) : FileTree :=
  { tree with root := tree.root.set node names }

/-- The names of the file that writing to a path changes, and its content if it is there already.
A link leads to its target even where nothing stands yet. -/
def placeToWrite (tree : FileTree) : Nat → Path → Except FileCause (List String × Option Content)
  | links, path =>
    match path.names.getLast? with
    | none | some ".." => .error .isDirectory
    | some name =>
      match tree.find path.parent with
      | .error cause => .error cause
      | .ok names =>
        match tree.root.at? names with
        | some (.directory entries) =>
          if maxNameSize < name.utf8ByteSize then .error .nameTooLong
          else match entries.lookup name, links with
          | none, _ => .ok (names ++ [name], none)
          | some (.file content _), _ => .ok (names ++ [name], some content)
          | some (.directory _), _ => .error .isDirectory
          | some (.link _), 0 => .error .tooManyLinks
          | some (.link target), links + 1 =>
            placeToWrite tree links (Path.join ⟨1, names⟩ target)
        | _ => .error .notDirectory
termination_by links => links

/-- The tree after a file has got new content, made from what it held before. -/
def update (tree : FileTree) (path : Path) (modified : Int) (change : Option Content → Content) :
    Except FileError FileTree :=
  match refusal? (tree.absolute path), tree.placeToWrite maxLinks (tree.absolute path) with
  | some cause, _ | none, .error cause => .error ⟨cause, path⟩
  | none, .ok (names, old) => .ok (tree.set names (some (.file (change old) modified)))

def write (tree : FileTree) (path : Path) (content : Content) (modified : Int) :
    Except FileError FileTree :=
  tree.update path modified fun _ => content

/-- Adds text at the end of a file, which is made if it is not there. -/
def append (tree : FileTree) (path : Path) (text : String) (modified : Int) :
    Except FileError FileTree :=
  tree.update path modified fun old => (old.getD (.text "")).append text

/-- Where the last name of a path stands; a link there is not followed. -/
def placeOf (tree : FileTree) (path : Path) : Except FileCause (List String) :=
  let path := tree.absolute path
  match refusal? path, path.names.getLast? with
  | some cause, _ => .error cause
  | none, none | none, some ".." => .error .isDirectory
  | none, some name =>
    match tree.find path.parent with
    | .error cause => .error cause
    | .ok names =>
      match tree.root.at? names with
      | some (.directory _) =>
        if maxNameSize < name.utf8ByteSize then .error .nameTooLong else .ok (names ++ [name])
      | _ => .error .notDirectory

/-- Makes one directory in a directory that is there. -/
def makeOne (tree : FileTree) (path : Path) : Except FileCause FileTree :=
  match tree.placeOf path with
  | .error .isDirectory => (tree.find path).bind fun _ => .error .present
  | .error cause => .error cause
  | .ok names =>
    match tree.root.at? names with
    | some _ => .error .present
    | none => .ok (tree.set names (some (.directory [])))

/-- The outcome of making a directory that may be there already. -/
def orPresent (tree : FileTree) (path : Path) (cause : FileCause) : Except FileError Unit :=
  match tree.hasDirectory path with
  | .ok true => .ok ()
  | .ok false => .error ⟨cause, path⟩
  | .error error => .error error

/-- Makes a directory and all directories above it, as far as they are not there. The names of its
path are given from the end backwards. -/
def makeAll (tree : FileTree) : List String → FileTree × Except FileError Unit
  | [] => (tree, .ok ())
  | name :: above =>
    let path : Path := ⟨1, (name :: above).reverse⟩
    match tree.makeOne path with
    | .ok tree => (tree, .ok ())
    | .error .missing =>
      match makeAll tree above with
      | (tree, .error error) => (tree, .error error)
      | (tree, .ok ()) =>
        match tree.makeOne path with
        | .ok tree => (tree, .ok ())
        | .error .missing => (tree, .error ⟨.missing, path⟩)
        | .error cause => (tree, tree.orPresent path cause)
    | .error .nul => (tree, .error ⟨.nul, path⟩)
    | .error cause => (tree, tree.orPresent path cause)

def makeDirectory (tree : FileTree) (path : Path) : FileTree × Except FileError Unit :=
  tree.makeAll (tree.absolute path).names.reverse

def deleteFile (tree : FileTree) (path : Path) : Except FileError FileTree :=
  match tree.placeOf path with
  | .error cause => .error ⟨cause, path⟩
  | .ok names =>
    match tree.root.at? names with
    | none => .error ⟨.missing, path⟩
    | some (.directory _) => .error ⟨.isDirectory, path⟩
    | some _ => .ok (tree.set names none)

/-- Puts a link where nothing stands yet. -/
def makeLink (tree : FileTree) (path target : Path) : Except FileError FileTree :=
  match refusal? target, tree.placeOf path with
  | some cause, _ | none, .error cause => .error ⟨cause, path⟩
  | none, .ok names =>
    match tree.root.at? names with
    | some _ => .error ⟨.present, path⟩
    | none => .ok (tree.set names (some (.link target)))

/-- Deletes whatever stands at a path, a directory with all that it holds. A link to a directory is
not deleted. -/
def delete (tree : FileTree) (path : Path) : Except FileError FileTree :=
  match tree.hasDirectory path, tree.placeOf path with
  | .error error, _ => .error error
  | .ok _, .error cause => .error ⟨cause, path⟩
  | .ok leadsToDirectory, .ok names =>
    match tree.root.at? names with
    | none => .error ⟨.missing, path⟩
    | some (.link _) =>
      if leadsToDirectory then .error ⟨.tooManyLinks, path⟩ else .ok (tree.set names none)
    | some _ => .ok (tree.set names none)

end FileTree
end KotlinAudit
