import KotlinAudit.Proofs.FileTree.Shelf
import KotlinAudit.Workspace

/-! Writing files into a directory of files, and deleting them. No way to a directory leads through a file,
so when one is deleted, every directory is found where it was, and the other files of the directory stand in
it as before. -/
namespace KotlinAudit

open FileTree (Admits Shelf held)

namespace FileTree

/-! ### Files of a directory -/

variable {tree after : FileTree} {dir : Path} {entries : List (String × Node)} {name : String}

theorem Admits.of_here (h : tree.Admits dir name) (hhere : after.here = tree.here) :
    after.Admits dir name := by
  refine ⟨?_, h.notUp, h.size⟩
  have hsame : after.absolute (dir.child name) = tree.absolute (dir.child name) := by
    rw [absolute, absolute, hhere]
  rw [hsame]
  exact h.path

theorem held_setEntry_of_ne (new : Option Node) (entries : List (String × Node)) {name other : String}
    (h : other ≠ name) : held (Node.setEntry name new entries) other = held entries other := by
  unfold held
  rw [Node.lookup_setEntry_of_ne new entries h]

theorem held_setEntry (name other : String) (content : Content) (modified : Int)
    (entries : List (String × Node)) :
    held (Node.setEntry name (some (.file content modified)) entries) other =
      if other = name then some content else held entries other := by
  by_cases h : other = name
  · rw [if_pos h, h, held, Node.lookup_setEntry_self]
  · rw [if_neg h, held_setEntry_of_ne _ _ h]

theorem Shelf.node?_child (h : tree.Shelf dir entries) (hname : tree.Admits dir name) :
    tree.node? (dir.child name) = .ok (entries.lookup name) := by
  unfold node?
  rw [h.node_child hname]
  cases entries.lookup name <;> rfl

/-- A name stands in a directory of files exactly if something is held under it. -/
theorem Shelf.isSome_held (h : tree.Shelf dir entries) (name : String) :
    (held entries name).isSome = (entries.lookup name).isSome := by
  unfold held
  cases hlookup : entries.lookup name with
  | none => rfl
  | some node =>
    obtain ⟨content, modified, rfl⟩ := Node.exists_of_isFile (h.files name node hlookup)
    rfl

theorem Shelf.has (h : tree.Shelf dir entries) (hname : tree.Admits dir name) :
    tree.has (dir.child name) = .ok (held entries name).isSome := by
  rw [FileTree.has, h.node?_child hname, h.isSome_held]
  rfl

/-- A file of the directory is there exactly if it holds something. -/
theorem Shelf.hasFile (h : tree.Shelf dir entries) (hname : tree.Admits dir name) :
    tree.hasFile (dir.child name) = .ok (held entries name).isSome := by
  rw [FileTree.hasFile, h.node?_child hname, h.isSome_held]
  cases hlookup : entries.lookup name with
  | none => rfl
  | some node =>
    obtain ⟨content, modified, rfl⟩ := Node.exists_of_isFile (h.files name node hlookup)
    rfl

theorem Shelf.content (h : tree.Shelf dir entries) (hname : tree.Admits dir name) {content : Content}
    (hheld : held entries name = some content) : tree.content (dir.child name) = .ok content := by
  have hnode := h.node_child hname
  unfold FileTree.content
  rw [hnode]
  unfold held at hheld
  cases hlookup : entries.lookup name with
  | none =>
    rw [hlookup] at hheld
    cases hheld
  | some node =>
    rw [hlookup] at hheld
    cases node with
    | file content modified =>
      cases hheld
      rfl
    | directory entries => cases hheld
    | link target => cases hheld

/-- Where a directory has the same entry as before, the same file stands under its name. -/
theorem Shelf.node_of_lookup (h : tree.Shelf dir entries) {entries' : List (String × Node)}
    (hafter : after.Shelf dir entries') (hhere : after.here = tree.here)
    (hname : tree.Admits dir name) (hlookup : entries'.lookup name = entries.lookup name) :
    after.node (dir.child name) = tree.node (dir.child name) := by
  rw [h.node_child hname, hafter.node_child (hname.of_here hhere), hlookup]

/-- A file of the directory that is not changed stands there as before. -/
theorem Shelf.node_setEntry (h : tree.Shelf dir entries) {file : Node}
    (hafter : after.Shelf dir (Node.setEntry name (some file) entries))
    (hhere : after.here = tree.here) {other : String} (hother : tree.Admits dir other)
    (hne : other ≠ name) : after.node (dir.child other) = tree.node (dir.child other) :=
  h.node_of_lookup hafter hhere hother (Node.lookup_setEntry_of_ne _ _ hne)

end FileTree

namespace Workspace

variable {workspace : Workspace} {dir : Path} {entries : List (String × Node)} {name : String}

theorem parent_child (dir : Path) (name : String) : (dir.child name).parent = dir := by
  unfold Path.child Path.parent
  rw [List.dropLast_concat]

theorem run_makeDirectory (h : workspace.tree.Shelf dir entries) :
    (Workspace.makeDirectory dir).run workspace = (.ok (), workspace) := by
  have hmade := FileTree.makeDirectory_of_directory h.here h.node
  change ((workspace.tree.makeDirectory dir).2,
    { workspace with tree := (workspace.tree.makeDirectory dir).1 }) = _
  rw [hmade]

theorem run_change_eq (edit : Workspace → Except FileError FileTree) (workspace : Workspace) :
    (Workspace.change edit).run workspace = match edit workspace with
      | .ok tree => (.ok (), { workspace with tree := tree })
      | .error error => (.error error, workspace) := rfl

/-- Changing a file of the directory. -/
theorem run_change (h : workspace.tree.Shelf dir entries)
    (hname : workspace.tree.Admits dir name) (content : Option Content → Content) :
    ∃ after : FileTree,
      (Workspace.change fun workspace =>
        workspace.tree.update (dir.child name) workspace.modified content).run workspace =
          (.ok (), { workspace with tree := after }) ∧
      after.here = workspace.tree.here ∧
      after.Shelf dir (Node.setEntry name
        (some (.file (content (held entries name)) workspace.modified)) entries) := by
  obtain ⟨after, hupdate, hhere, hshelf⟩ := h.update hname workspace.modified content
  refine ⟨after, ?_, hhere, hshelf⟩
  rw [run_change_eq, hupdate]

theorem run_writeText (h : workspace.tree.Shelf dir entries)
    (hname : workspace.tree.Admits dir name) (text : String) :
    ∃ after : FileTree, (Workspace.writeText (dir.child name) text).run workspace =
        (.ok (), { workspace with tree := after }) ∧
      after.here = workspace.tree.here ∧
      after.Shelf dir (Node.setEntry name (some (.file (.text text) workspace.modified)) entries) := by
  obtain ⟨after, hchange, hhere, hshelf⟩ := run_change h hname fun _ => .text text
  refine ⟨after, ?_, hhere, hshelf⟩
  unfold Workspace.writeText
  rw [StateT.run_bind, parent_child, run_makeDirectory h]
  exact hchange

theorem run_appendText (h : workspace.tree.Shelf dir entries)
    (hname : workspace.tree.Admits dir name) (text : String) :
    ∃ after : FileTree, (Workspace.appendText (dir.child name) text).run workspace =
        (.ok (), { workspace with tree := after }) ∧
      after.here = workspace.tree.here ∧
      after.Shelf dir (Node.setEntry name
        (some (.file (((held entries name).getD (.text "")).append text) workspace.modified))
          entries) := by
  obtain ⟨after, hchange, hhere, hshelf⟩ :=
    run_change h hname fun old => (old.getD (.text "")).append text
  refine ⟨after, ?_, hhere, hshelf⟩
  unfold Workspace.appendText
  rw [StateT.run_bind, parent_child, run_makeDirectory h]
  exact hchange

end Workspace

namespace Node

/-! ### Entries of a directory -/

variable {name : String} {entries : List (String × Node)}

theorem keys_setEntry_some (name : String) (node : Node) (entries : List (String × Node)) :
    (setEntry name (some node) entries).map Prod.fst =
      if name ∈ entries.map Prod.fst then entries.map Prod.fst
      else entries.map Prod.fst ++ [name] := by
  induction entries with
  | nil => rfl
  | cons entry rest ih =>
    obtain ⟨first, old⟩ := entry
    rw [setEntry]
    by_cases hfirst : first = name
    · simp [hfirst]
    · rw [if_neg hfirst, List.map_cons, ih, List.map_cons]
      by_cases hmem : name ∈ rest.map Prod.fst
      · rw [if_pos hmem, if_pos (List.mem_cons_of_mem _ hmem)]
      · rw [if_neg hmem, if_neg (List.not_mem_cons_of_ne_of_not_mem (Ne.symm hfirst) hmem),
          List.cons_append]

theorem keys_setEntry_none (name : String) (entries : List (String × Node)) :
    (setEntry name none entries).map Prod.fst = (entries.map Prod.fst).erase name := by
  induction entries with
  | nil => rfl
  | cons entry rest ih =>
    obtain ⟨first, old⟩ := entry
    rw [setEntry, List.map_cons]
    by_cases hfirst : first = name
    · subst hfirst
      rw [if_pos rfl, List.erase_cons_head]
      rfl
    · rw [if_neg hfirst, List.erase_cons_tail (by simpa using hfirst), List.map_cons, ih]

/-- Where no name stands twice, none does after an entry has been set or taken away. -/
theorem nodup_setEntry (h : (entries.map Prod.fst).Nodup) (name : String) (new : Option Node) :
    ((setEntry name new entries).map Prod.fst).Nodup := by
  cases new with
  | none =>
    rw [keys_setEntry_none]
    exact h.erase name
  | some node =>
    rw [keys_setEntry_some]
    split
    · exact h
    · next hmem => simpa [List.nodup_append] using ⟨h, fun key node hkey heq => hmem (by
        rw [← heq]
        exact List.mem_map_of_mem hkey)⟩

theorem lookup_setEntry_none (h : (entries.map Prod.fst).Nodup) (name : String) :
    (setEntry name none entries).lookup name = none := by
  rw [List.lookup_eq_none_iff]
  intro entry hentry
  have hmem : entry.1 ∈ (entries.map Prod.fst).erase name := by
    rw [← keys_setEntry_none]
    exact List.mem_map_of_mem hentry
  have hne := (h.mem_erase_iff.1 hmem).1
  simpa using Ne.symm hne

theorem setEntry_none_of_lookup (h : entries.lookup name = none) :
    setEntry name none entries = entries := by
  induction entries with
  | nil => rfl
  | cons entry rest ih =>
    obtain ⟨first, old⟩ := entry
    rw [List.lookup_cons] at h
    split at h
    · cases h
    · next hne =>
      rw [setEntry, if_neg (Ne.symm (beq_eq_false_iff_ne.1 hne)), ih h]

/-! ### Trees in which files have been deleted -/

/-- All that is no file is still there. -/
def Spares (before after : Node) : Prop :=
  ∀ names node, before.at? names = some node → node.isFile = false →
    ∃ node', after.at? names = some node' ∧ SameKind node node'

/-- Taking a file away spares all that is no file. -/
theorem spares_set_none {names : List String} {root : Node}
    (h : root.at? names = some (directory entries)) {file : Node}
    (hlookup : entries.lookup name = some file) (hfile : file.isFile) :
    root.Spares (root.set none (names ++ [name])) := by
  intro place node hnode hother
  rcases sameKind_of_set h name none hnode with ⟨more, rfl⟩ | hkept
  · -- the file itself, as nothing stands below it
    rw [at?_append, h, Option.bind_some, at?_cons_directory, hlookup, Option.bind_some] at hnode
    obtain ⟨_, _, rfl⟩ := exists_of_isFile hfile
    cases more with
    | cons next rest => cases hnode
    | nil =>
      cases hnode
      cases hother
  · exact hkept

theorem exists_directory_of_spares {before after : Node} (h : before.Spares after) {place : List String}
    (hentries : before.at? place = some (directory entries)) :
    ∃ entries', after.at? place = some (directory entries') := by
  obtain ⟨node', hnode', hkind⟩ := h _ _ hentries rfl
  cases hkind
  exact ⟨_, hnode'⟩

/-- An entry of a directory that is no file. -/
theorem lookup_of_spares {before after : Node} (h : before.Spares after) {place : List String}
    {entries' : List (String × Node)} (hentries : before.at? place = some (directory entries))
    (hentries' : after.at? place = some (directory entries')) {child : Node}
    (hchild : entries.lookup name = some child) (hother : child.isFile = false) :
    ∃ child', entries'.lookup name = some child' ∧ SameKind child child' := by
  rw [← at?_append_singleton hentries] at hchild
  obtain ⟨child', hchild', hkind⟩ := h _ _ hchild hother
  exact ⟨child', by rw [← at?_append_singleton hentries', hchild'], hkind⟩

end Node

namespace FileTree

open Node (Spares)

/-- A way to a directory leads there in a tree in which files have been deleted. -/
theorem findFrom_of_spares {before after : Node} (hspares : Spares before after) (links : Nat)
    (place names : List String) {found : List String}
    (h : findFrom before links place names = .ok found) {entries : List (String × Node)}
    (hfound : before.at? found.reverse = some (.directory entries)) :
    findFrom after links place names = .ok found := by
  match names with
  | [] =>
    rw [findFrom_nil] at h ⊢
    split at h
    · cases h
      obtain ⟨entries', hentries'⟩ := Node.exists_directory_of_spares hspares hfound
      rw [hentries', Option.isSome_some, if_pos rfl]
    · cases h
  | name :: rest =>
    obtain ⟨here, hhere⟩ := exists_directory_of_findFrom h
    obtain ⟨here', hhere'⟩ := Node.exists_directory_of_spares hspares hhere
    rw [findFrom_cons hhere] at h
    rw [findFrom_cons hhere']
    by_cases hdots : name = ".."
    · rw [if_pos hdots] at h ⊢
      exact findFrom_of_spares hspares links place.tail rest h hfound
    rw [if_neg hdots] at h ⊢
    by_cases hsize : maxNameSize < name.utf8ByteSize
    · rw [if_pos hsize] at h
      cases h
    rw [if_neg hsize] at h ⊢
    cases hchild : here.lookup name with
    | none =>
      rw [hchild] at h
      cases h
    | some child =>
      rw [hchild] at h
      cases child with
      | file content modified =>
        -- the way would end at this file or go on behind it
        have hfile : before.at? (name :: place).reverse = some (.file content modified) := by
          rw [List.reverse_cons, Node.at?_append_singleton hhere, hchild]
        change findFrom before links (name :: place) rest = .ok found at h
        cases rest with
        | nil =>
          rw [findFrom_nil, hfile, Option.isSome_some, if_pos rfl] at h
          cases h
          cases hfile.symm.trans hfound
        | cons next more => cases (findFrom_cons_of_file hfile links next more).symm.trans h
      | directory inner =>
        obtain ⟨child', hchild', hkind⟩ := Node.lookup_of_spares hspares hhere hhere' hchild rfl
        cases hkind
        rw [hchild']
        exact findFrom_of_spares hspares links (name :: place) rest h hfound
      | link target =>
        obtain ⟨child', hchild', hkind⟩ := Node.lookup_of_spares hspares hhere hhere' hchild rfl
        cases hkind
        rw [hchild']
        cases links with
        | zero => cases h
        | succ links => exact findFrom_of_spares hspares links _ _ h hfound
termination_by (links, names.length)

variable {tree : FileTree} {dir : Path} {entries : List (String × Node)} {name : String}

theorem held_setEntry_none (h : (entries.map Prod.fst).Nodup) (name : String) :
    held (Node.setEntry name none entries) name = none := by
  rw [held, Node.lookup_setEntry_none h]

/-- A name under which nothing is held does not stand in the directory. -/
theorem Shelf.setEntry_none (h : tree.Shelf dir entries) (hheld : held entries name = none) :
    Node.setEntry name none entries = entries := by
  refine Node.setEntry_none_of_lookup ?_
  rw [← Option.isNone_iff_eq_none, ← Option.not_isSome, ← h.isSome_held, hheld]
  rfl

/-- A directory of files in which no name stands twice without one of them. -/
theorem Shelf.deleteFile (h : tree.Shelf dir entries) (hname : tree.Admits dir name)
    (hnodup : (entries.map Prod.fst).Nodup) (hheld : (held entries name).isSome) :
    ∃ after, tree.deleteFile (dir.child name) = .ok after ∧ after.here = tree.here ∧
      after.Shelf dir (Node.setEntry name none entries) := by
  obtain ⟨hdir, place, hplace, hentries⟩ := exists_place_of_node h.node
  rw [h.isSome_held] at hheld
  obtain ⟨file, hlookup⟩ := Option.isSome_iff_exists.1 hheld
  have hfile := h.files name file hlookup
  have hplaceOf : tree.placeOf (dir.child name) = .ok (place.reverse ++ [name]) :=
    placeOf_eq hname.path (getLast?_absolute_child dir name) hname.notUp
      (h.find_parent hplace name) hentries (Nat.not_lt_of_le hname.size)
  refine ⟨tree.set (place.reverse ++ [name]) none, ?_, rfl, h.here, ?_, ?_⟩
  · rw [FileTree.deleteFile, hplaceOf]
    dsimp only
    rw [Node.at?_append_singleton hentries, hlookup]
    obtain ⟨_, _, rfl⟩ := Node.exists_of_isFile hfile
    rfl
  · have hspares := Node.spares_set_none hentries hlookup hfile
    exact node_of_place _ hdir (findFrom_of_spares hspares maxLinks [] _ hplace hentries)
      (Node.at?_set hentries name)
  · intro other node hnode
    by_cases hother : other = name
    · rw [hother, Node.lookup_setEntry_none hnodup] at hnode
      cases hnode
    · rw [Node.lookup_setEntry_of_ne _ _ hother] at hnode
      exact h.files other node hnode

end FileTree
end KotlinAudit
