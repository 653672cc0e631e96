import KotlinAudit.Proofs.FileTree.Arrival
import KotlinAudit.Proofs.FileTree.Proper
import KotlinAudit.Proofs.FileTree.Shelf
import KotlinAudit.Proofs.Keyed
import Mathlib.Data.List.Induction

/-! Trees of files and directories without links. What stands below a directory of such a tree is found
under its names and nowhere else, so what is asked about it is told by the directory alone, in whatever tree and
at whatever path it stands. Ways on which no link stands are resolved by their names alone, whether there is
something at their end or not. -/
namespace KotlinAudit

open KotlinAudit.Path (ProperName)

/-- The path that some names lead to below a path. -/
def Path.under (path : Path) (names : List String) : Path := ⟨path.slashes, path.names ++ names⟩

namespace Path

@[simp] theorem under_nil (path : Path) : path.under [] = path := by
  rw [under, List.append_nil]

@[simp] theorem under_under (path : Path) (names more : List String) :
    (path.under names).under more = path.under (names ++ more) := by
  simp only [under, List.append_assoc]

theorem child_eq_under (path : Path) (name : String) : path.child name = path.under [name] := rfl

theorem under_injective {path : Path} {names more : List String}
    (h : path.under names = path.under more) : names = more :=
  List.append_cancel_left (congrArg Path.names h)

end Path

namespace Node

mutual

/-- Files and directories only, with names as a system allows them, each once in its directory. -/
def Plain : Node → Prop
  | file _ _ => True
  | link _ => False
  | directory entries => (entries.map Prod.fst).Nodup ∧ PlainEntries entries

def PlainEntries : List (String × Node) → Prop
  | [] => True
  | (name, node) :: rest =>
    (ProperName name ∧ name ≠ "..") ∧ Plain node ∧ PlainEntries rest

end

theorem plainEntries_iff {entries : List (String × Node)} : PlainEntries entries ↔
    ∀ entry ∈ entries, (ProperName entry.1 ∧ entry.1 ≠ "..") ∧ entry.2.Plain := by
  induction entries with
  | nil => simp [PlainEntries]
  | cons entry rest ih =>
    obtain ⟨name, node⟩ := entry
    rw [PlainEntries, ih, List.forall_mem_cons]
    exact and_assoc.symm

/-- What holds of files and links and of every directory whose entries it holds of, holds of all
nodes. -/
@[elab_as_elim]
theorem entries_induction {motive : Node → Prop}
    (file : ∀ content modified, motive (.file content modified))
    (link : ∀ target, motive (.link target))
    (directory : ∀ entries, (∀ entry ∈ entries, motive entry.2) → motive (.directory entries))
    (node : Node) : motive node :=
  @Node.rec motive (fun entries => ∀ entry ∈ entries, motive entry.2) (fun entry => motive entry.2)
    file directory link (fun _ hentry => absurd hentry List.not_mem_nil)
    (fun _ _ hfirst hrest => List.forall_mem_cons.2 ⟨hfirst, hrest⟩) (fun _ _ hnode => hnode) node

variable {entries : List (String × Node)} {names : List String} {name : String} {node child : Node}

theorem Plain.lookup_iff (h : (directory entries).Plain) :
    entries.lookup name = some node ↔ (name, node) ∈ entries :=
  ⟨FileTree.mem_of_lookup, Keyed.lookup_of_mem h.1⟩

theorem Plain.entry (h : (directory entries).Plain) (hmem : (name, node) ∈ entries) :
    (ProperName name ∧ name ≠ "..") ∧ node.Plain :=
  plainEntries_iff.1 h.2 (name, node) hmem

/-- What stands in a plain tree is plain, and it is reached by names that are no double dots. -/
theorem Plain.at? (h : node.Plain) (hchild : node.at? names = some child) :
    child.Plain ∧ ∀ name ∈ names, ProperName name ∧ name ≠ ".." := by
  induction names generalizing node with
  | nil =>
    cases hchild
    exact ⟨h, fun _ hname => absurd hname List.not_mem_nil⟩
  | cons name rest ih =>
    cases node with
    | file content modified => cases hchild
    | link target => cases hchild
    | directory entries =>
      rw [at?_cons_directory] at hchild
      obtain ⟨next, hnext, hrest⟩ := Option.bind_eq_some_iff.1 hchild
      obtain ⟨hname, hplain⟩ := h.entry (h.lookup_iff.1 hnext)
      obtain ⟨hfound, hnames⟩ := ih hplain hrest
      exact ⟨hfound, List.forall_mem_cons.2 ⟨hname, hnames⟩⟩

theorem Plain.proper (h : node.Plain) : node.Proper := by
  induction node using entries_induction with
  | file content modified => trivial
  | link target => exact h.elim
  | directory entries ih =>
    have hentries : ∀ part ⊆ entries, ProperEntries part := by
      intro part
      induction part with
      | nil => exact fun _ => trivial
      | cons entry rest hrest =>
        intro hpart
        obtain ⟨hentry, hsub⟩ := List.cons_subset.1 hpart
        obtain ⟨hname, hplain⟩ := h.entry hentry
        exact ⟨hname.1, ih entry hentry hplain, hrest hsub⟩
    exact hentries entries (List.Subset.refl _)

theorem Plain.ne_link (h : node.Plain) (target : Path) : node ≠ .link target := by
  rintro rfl
  exact h

end Node

namespace FileTree

variable {tree : FileTree} {dir : Path} {node child found : Node} {names : List String}

theorem absolute_under (tree : FileTree) (dir : Path) (names : List String) :
    tree.absolute (dir.under names) = (tree.absolute dir).under names := by
  unfold absolute Path.join Path.under Path.isAbsolute
  dsimp only
  split
  · rfl
  · rw [List.append_assoc]

/-- A way without links and double dots that comes to an end has gone through its own names. -/
theorem place_of_findFrom {root : Node} (links : Nat) {place last : List String}
    (hdots : ∀ name ∈ names, name ≠ "..") (hnode : ∀ target, node ≠ .link target)
    (h : root.at? (place.reverse ++ names) = some node)
    (hend : findFrom root links place names = .ok last) :
    last = names.reverse ++ place ∧ PlainNames names := by
  have hsize : PlainNames names := by
    induction names generalizing place with
    | nil => exact fun _ hname => absurd hname List.not_mem_nil
    | cons name rest ih =>
      obtain ⟨entries, next, hentries, hnext, hrest⟩ := exists_child_of_at? h
      obtain ⟨hname, hothers⟩ := List.forall_mem_cons.1 hdots
      rw [findFrom_cons hentries, if_neg hname] at hend
      split at hend
      · cases hend
      · next hlong =>
        refine List.forall_mem_cons.2 ⟨⟨hname, Nat.not_lt.1 hlong⟩, @ih (name :: place) hothers ?_ ?_⟩
        · rw [List.reverse_cons, List.append_assoc]
          exact h
        · rw [hnext] at hend
          have hlink := ne_link_of_at? hrest hnode
          cases next with
          | link target => exact absurd rfl (hlink target)
          | file content modified => exact hend
          | directory entries => exact hend
  rw [findFrom_of_at? links hsize hnode h] at hend
  exact ⟨(Except.ok.inj hend).symm, hsize⟩

/-- What a path below a plain directory can be asked for is what stands there. -/
theorem node_under (hdir : tree.node dir = .ok node) (hplain : node.Plain)
    (hchild : node.at? names = some child) (hfound : tree.node (dir.under names) = .ok found) :
    found = child := by
  obtain ⟨-, place, hplace, hnode⟩ := exists_place_of_node hdir
  obtain ⟨-, last, hlast, hat⟩ := exists_place_of_node hfound
  obtain ⟨hsound, hnames⟩ := hplain.at? hchild
  obtain ⟨left, hleft⟩ := findFrom_append maxLinks [] (tree.absolute dir).names names hplace
  rw [absolute_under, Path.under, hleft] at hlast
  have hbelow : tree.root.at? (place.reverse ++ names) = some child := by
    rw [Node.at?_append, hnode, Option.bind_some, hchild]
  obtain ⟨rfl, -⟩ := place_of_findFrom left (fun name hname => (hnames name hname).2) hsound.ne_link
    hbelow hlast
  rw [List.reverse_append, List.reverse_reverse, hbelow] at hat
  exact (Option.some.inj hat).symm

/-- What lies on the way to something that can be asked for can be asked for. -/
theorem exists_node_under {front rest : List String} (hdir : tree.node dir = .ok node)
    (hplain : node.Plain) (habsolute : dir.isAbsolute) (hchild : node.at? (front ++ rest) = some child)
    (hfound : tree.node (dir.under (front ++ rest)) = .ok found) :
    ∃ between, node.at? front = some between ∧ tree.node (dir.under front) = .ok between := by
  have hunder : ∀ names, tree.absolute (dir.under names) = dir.under names :=
    fun names => absolute_of_isAbsolute habsolute
  obtain ⟨-, place, hplace, hnode⟩ := exists_place_of_node hdir
  obtain ⟨hpath, last, hlast, -⟩ := exists_place_of_node hfound
  obtain ⟨hsound, hnames⟩ := hplain.at? hchild
  obtain ⟨left, hleft⟩ := findFrom_append maxLinks [] (tree.absolute dir).names (front ++ rest) hplace
  rw [absolute_under, Path.under, hleft] at hlast
  have hbelow : tree.root.at? (place.reverse ++ (front ++ rest)) = some child := by
    rw [Node.at?_append, hnode, Option.bind_some, hchild]
  obtain ⟨-, hplainNames⟩ := place_of_findFrom left (fun name hname => (hnames name hname).2)
    hsound.ne_link hbelow hlast
  rw [Node.at?_append] at hchild
  obtain ⟨between, hbetween, -⟩ := Option.bind_eq_some_iff.1 hchild
  have hat : tree.root.at? (place.reverse ++ front) = some between := by
    rw [Node.at?_append, hnode, Option.bind_some, hbetween]
  obtain ⟨left', hleft'⟩ := findFrom_append maxLinks [] (tree.absolute dir).names front hplace
  refine ⟨between, hbetween, node_of_place (front.reverse ++ place) ?_ ?_ ?_⟩
  · rw [hunder] at hpath ⊢
    have hslashes : dir.slashes ≠ 0 := by simpa [Path.isAbsolute] using habsolute
    refine refusal?_of_append rest hslashes (Nat.le_refl _) ?_
    rwa [List.append_assoc]
  · rw [absolute_under, Path.under, hleft']
    exact findFrom_of_at? left' (fun name hname => hplainNames name (List.mem_append_left _ hname))
      (hplain.at? hbetween).1.ne_link hat
  · rw [List.reverse_append, List.reverse_reverse]
    exact hat

end FileTree

/-! ### Asking for what stands below a directory -/

/-- What some names lead to from a node on; names that are too long cannot be asked for. -/
def Node.seek : List String → Node → Except FileCause (Option Node)
  | [], node => .ok (some node)
  | name :: rest, directory entries =>
    if FileTree.maxNameSize < name.utf8ByteSize then .error .nameTooLong
    else match entries.lookup name with
      | some child => seek rest child
      | none => .ok none
  | _ :: _, _ => .ok none

namespace Node

mutual

/-- The node without the times of its files. -/
def undated : Node → Node
  | file content _ => file content 0
  | link target => link target
  | directory entries => directory (undatedEntries entries)

def undatedEntries : List (String × Node) → List (String × Node)
  | [] => []
  | (name, node) :: rest => (name, undated node) :: undatedEntries rest

end

theorem isFile_undated (node : Node) : node.undated.isFile = node.isFile := by
  cases node <;> rfl

theorem lookup_undatedEntries (entries : List (String × Node)) (name : String) :
    (undatedEntries entries).lookup name = (entries.lookup name).map undated := by
  induction entries with
  | nil => rfl
  | cons entry rest ih =>
    obtain ⟨other, node⟩ := entry
    rw [undatedEntries, List.lookup_cons, List.lookup_cons, ih]
    split <;> rfl

theorem seek_undated (names : List String) (node : Node) :
    node.undated.seek names = (node.seek names).map (Option.map undated) := by
  induction names generalizing node with
  | nil => rfl
  | cons name rest ih =>
    cases node with
    | file content modified => rfl
    | link target => rfl
    | directory entries =>
      rw [undated, seek, seek, lookup_undatedEntries]
      by_cases hlong : FileTree.maxNameSize < name.utf8ByteSize
      · rw [if_pos hlong, if_pos hlong]
        rfl
      · rw [if_neg hlong, if_neg hlong]
        cases entries.lookup name with
        | none => rfl
        | some child => exact ih child

/-- Where files stand does not depend on their times. -/
theorem isFile_seek_undated (names : List String) (node : Node) :
    (node.undated.seek names).map (·.any isFile) = (node.seek names).map (·.any isFile) := by
  rw [seek_undated]
  cases node.seek names with
  | error cause => rfl
  | ok found =>
    cases found with
    | none => rfl
    | some found => exact congrArg Except.ok (isFile_undated found)

end Node

namespace FileTree

variable {tree : FileTree} {dir : Path} {root node : Node} {names : List String}

/-- What is found at the end of a way, if it comes to an end. -/
def answer (root : Node) : Except FileCause (List String) → Except FileCause (Option Node)
  | .ok place => .ok (root.at? place.reverse)
  | .error cause => if cause = .nameTooLong then .error cause else .ok none

theorem node?_eq_answer {path : Path} (hpath : refusal? (tree.absolute path) = none) :
    tree.node? path = (answer tree.root
      (findFrom tree.root maxLinks [] (tree.absolute path).names)).mapError (⟨·, path⟩) := by
  unfold node? FileTree.node
  rw [find_eq, hpath]
  dsimp only
  cases findFrom tree.root maxLinks [] (tree.absolute path).names with
  | error cause =>
    rw [answer]
    dsimp only [Except.map]
    by_cases hlong : cause = .nameTooLong
    · rw [if_pos hlong, if_pos hlong]
      rfl
    · rw [if_neg hlong, if_neg hlong]
      rfl
  | ok place =>
    rw [answer]
    dsimp only [Except.map]
    cases tree.root.at? place.reverse <;> rfl

/-- From a plain node on, a way is answered by the node. -/
theorem answer_findFrom {place : List String} (hat : root.at? place.reverse = some node)
    (hplain : node.Plain) (hnames : ∀ name ∈ names, name ≠ "..") (links : Nat) :
    answer root (findFrom root links place names) = node.seek names := by
  induction names generalizing place node with
  | nil =>
    rw [findFrom_nil, hat, Option.isSome_some, if_pos rfl, answer, hat, Node.seek]
  | cons name rest ih =>
    obtain ⟨hname, hrest⟩ := List.forall_mem_cons.1 hnames
    cases node with
    | file content modified =>
      rw [findFrom_cons_of_file hat]
      rfl
    | link target => exact hplain.elim
    | directory entries =>
      rw [findFrom_cons hat, if_neg hname, Node.seek]
      by_cases hlong : maxNameSize < name.utf8ByteSize
      · rw [if_pos hlong, if_pos hlong]
        rfl
      · rw [if_neg hlong, if_neg hlong]
        cases hchild : entries.lookup name with
        | none => rfl
        | some child =>
          have hplain' : child.Plain := (hplain.entry (hplain.lookup_iff.1 hchild)).2
          have hat' : root.at? (name :: place).reverse = some child := by
            rw [List.reverse_cons, Node.at?_append_singleton hat, hchild]
          have hstep := ih hat' hplain' hrest
          cases child with
          | link target => exact hplain'.elim
          | file content modified => exact hstep
          | directory inner => exact hstep

/-- A node stands at an absolute path, with no link on the way there. -/
structure Stands (tree : FileTree) (dir : Path) (node : Node) : Prop where
  absolute : dir.isAbsolute
  names : PlainNames dir.names
  at_names : tree.root.at? dir.names = some node

theorem Stands.node?_under (h : tree.Stands dir node) (hplain : node.Plain)
    (hnames : ∀ name ∈ names, name ≠ "..") (hpath : refusal? (dir.under names) = none) :
    tree.node? (dir.under names) = (node.seek names).mapError (⟨·, dir.under names⟩) := by
  have habsolute : tree.absolute (dir.under names) = dir.under names := absolute_of_isAbsolute h.absolute
  have hway : findFrom tree.root maxLinks [] (dir.under names).names =
      findFrom tree.root maxLinks (dir.names.reverse ++ []) names :=
    @findFrom_append_of_at? tree.root node maxLinks [] dir.names h.names hplain.ne_link h.at_names names
  have hat : tree.root.at? (dir.names.reverse ++ []).reverse = some node := by
    rw [List.append_nil, List.reverse_reverse, h.at_names]
  rw [node?_eq_answer (by rwa [habsolute]), habsolute, hway, answer_findFrom hat hplain hnames]

theorem Stands.hasFile_under (h : tree.Stands dir node) (hplain : node.Plain)
    (hnames : ∀ name ∈ names, name ≠ "..") (hpath : refusal? (dir.under names) = none) :
    (tree.hasFile (dir.under names)).toOption =
      ((node.undated.seek names).map (·.any Node.isFile)).toOption := by
  rw [hasFile, h.node?_under hplain hnames hpath, Node.isFile_seek_undated]
  cases node.seek names <;> rfl

end FileTree

/-! ### Resolving ways on which no link stands -/
namespace FileTree

variable {root : Node} {names more front place : List String} {name : String}

/-! ### Names without double dots -/

theorem withoutDots_concat (names : List String) (name : String) :
    withoutDots (names ++ [name]) =
      if name = ".." then (withoutDots names).dropLast else withoutDots names ++ [name] := by
  unfold withoutDots
  rw [List.foldl_append, List.foldl_cons, List.foldl_nil]
  split
  · rw [← List.dropLast_reverse]
  · rw [List.reverse_cons]

/-- Names without double dots stay behind what comes before them. -/
theorem withoutDots_append (names : List String) (h : ∀ name ∈ more, name ≠ "..") :
    withoutDots (names ++ more) = withoutDots names ++ more := by
  induction more using List.reverseRecOn with
  | nil => simp
  | append_singleton rest last ih =>
    rw [List.forall_mem_append, List.forall_mem_singleton] at h
    rw [← List.append_assoc, withoutDots_concat, if_neg h.2, ih h.1, List.append_assoc]

theorem ne_up_of_mem_withoutDots (names : List String) : ∀ name ∈ withoutDots names, name ≠ ".." := by
  induction names using List.reverseRecOn with
  | nil => exact List.forall_mem_nil _
  | append_singleton rest last ih =>
    rw [withoutDots_concat]
    split
    · exact fun name hname => ih name (List.dropLast_subset _ hname)
    · next hlast =>
      rw [List.forall_mem_append, List.forall_mem_singleton]
      exact ⟨ih, hlast⟩

/-- What leads to the end of a way has been come across on it. -/
theorem exists_front (h : place <+: withoutDots names) :
    ∃ front, front <+: names ∧ withoutDots front = place := by
  induction names using List.reverseRecOn with
  | nil => exact ⟨[], List.prefix_refl _, (List.prefix_nil.1 h).symm⟩
  | append_singleton rest last ih =>
    have hearlier : place <+: withoutDots rest →
        ∃ front, front <+: rest ++ [last] ∧ withoutDots front = place := fun hplace =>
      (ih hplace).imp fun _ hfront => ⟨hfront.1.trans (List.prefix_append _ _), hfront.2⟩
    rw [withoutDots_concat] at h
    split at h
    · exact hearlier (h.trans (List.dropLast_prefix _))
    · next hlast =>
      rcases List.prefix_concat_iff.1 h with hwhole | hplace
      · refine ⟨rest ++ [last], List.prefix_refl _, ?_⟩
        rw [withoutDots_concat, if_neg hlast, hwhole]
      · exact hearlier hplace

/-! ### Ways on which no link stands -/

/-- No link stands where some names lead to, nor on the way there. -/
def Straight (root : Node) (names : List String) : Prop :=
  ∀ front, front <+: names → ∀ target, root.at? (withoutDots front) ≠ some (.link target)

theorem Straight.mono (h : Straight root names) (hfront : front <+: names) : Straight root front :=
  fun first hfirst => h first (hfirst.trans hfront)

/-- One more name on a way on which no link stands. -/
theorem resolveFrom_cons_of_straight (h : Straight root (names ++ [name])) (links : Nat)
    (steps : List Step) :
    resolveFrom root links [] (withoutDots names).reverse (.name name :: steps) =
      resolveFrom root links [] (withoutDots (names ++ [name])).reverse steps := by
  have hplace := h _ (List.prefix_refl _)
  rw [withoutDots_concat] at hplace ⊢
  rw [resolveFrom.eq_def]
  dsimp only
  by_cases hdots : name = ".."
  · rw [if_pos hdots, if_pos hdots, ← List.tail_reverse]
  · rw [if_neg hdots] at hplace ⊢
    rw [if_neg hdots, List.reverse_cons, List.reverse_reverse, List.reverse_concat]
    cases hnode : root.at? (withoutDots names ++ [name]) with
    | none => rfl
    | some node =>
      cases node with
      | file content modified => rfl
      | directory entries => rfl
      | link target => exact absurd hnode (hplace target)

theorem resolveFrom_of_straight (h : Straight root (names ++ more)) (links : Nat) :
    resolveFrom root links [] (withoutDots names).reverse (more.map .name) =
      withoutDots (names ++ more) := by
  induction more generalizing names with
  | nil => rw [List.map_nil, resolveFrom, List.reverse_reverse, List.append_nil]
  | cons name rest ih =>
    have hassoc : names ++ name :: rest = names ++ [name] ++ rest := by simp
    rw [hassoc] at h ⊢
    rw [List.map_cons, resolveFrom_cons_of_straight (h.mono (List.prefix_append _ _)), ih h]

/-- Where no link stands the way does not have too many of them. -/
theorem findFrom_ne_tooManyLinks (hdots : ∀ name ∈ more, name ≠ "..")
    (h : ∀ place, place <+: names ++ more → ∀ target, root.at? place ≠ some (.link target))
    (links : Nat) : findFrom root links names.reverse more ≠ .error .tooManyLinks := by
  induction more generalizing names with
  | nil =>
    rw [findFrom_nil]
    split <;> exact nofun
  | cons name rest ih =>
    obtain ⟨hname, hrest⟩ := List.forall_mem_cons.1 hdots
    have hassoc : names ++ name :: rest = names ++ [name] ++ rest := by simp
    rw [hassoc] at h
    have hstep := ih hrest h
    rw [List.reverse_concat] at hstep
    have hplace : names.reverse.reverse = names := List.reverse_reverse names
    cases hnode : root.at? names with
    | none =>
      rw [findFrom_cons_of_none (by simp [hnode])]
      exact nofun
    | some node =>
      cases node with
      | file content modified =>
        rw [findFrom_cons_of_file (hplace.symm ▸ hnode)]
        exact nofun
      | link target =>
        rw [findFrom_cons_of_none (by simp [hnode])]
        exact nofun
      | directory entries =>
        have hlink := h (names ++ [name]) (List.prefix_append _ _)
        rw [Node.at?_append_singleton hnode] at hlink
        rw [findFrom_cons (hplace.symm ▸ hnode), if_neg hname]
        split
        · exact nofun
        · cases hlookup : entries.lookup name with
          | none => exact nofun
          | some child =>
            cases child with
            | file content modified => exact hstep
            | directory inner => exact hstep
            | link target => exact absurd hlookup (hlink target)

variable {tree : FileTree} {path : Path}

/-- No link stands on the way to a path, nor anywhere below it. -/
structure Linkless (tree : FileTree) (path : Path) : Prop where
  way : Straight tree.root (tree.absolute path).names
  below : ∀ names target,
    tree.root.at? (withoutDots (tree.absolute path).names ++ names) ≠ some (.link target)

/-- In a tree without links every path is without them. -/
theorem linkless_of_plain (h : tree.root.Plain) (path : Path) : tree.Linkless path :=
  ⟨fun _ _ _ hnode => (h.at? hnode).1, fun _ _ hnode => (h.at? hnode).1⟩

theorem Linkless.straight (h : tree.Linkless path) (hmore : ∀ name ∈ more, name ≠ "..") :
    Straight tree.root ((tree.absolute path).names ++ more) := by
  intro front hfront
  rcases List.prefix_or_prefix_of_prefix hfront (List.prefix_append _ _) with habove | ⟨rest, rfl⟩
  · exact h.way front habove
  · have hrest : rest <+: more := (List.prefix_append_right_inj _).1 hfront
    rw [withoutDots_append _ fun name hname => hmore name (hrest.subset hname)]
    exact h.below rest

/-- A path whose names have no NUL may be asked for. -/
theorem refusal?_ne_nul (h : ∀ name ∈ path.names, '\x00' ∉ name.toList) :
    refusal? path ≠ some .nul := by
  have hnul := Path.not_mem_text (by decide) (by decide) h
  unfold refusal?
  rw [if_neg (by simpa using hnul)]
  split <;> exact nofun

/-- A way on which no link stands is resolved by its names alone. -/
theorem resolve_of_straight (hpath : refusal? path ≠ some .nul)
    (h : Straight tree.root (tree.absolute path).names) :
    tree.resolve path = .ok ⟨1, withoutDots (tree.absolute path).names⟩ := by
  have hresolved : resolveFrom tree.root tree.root.linkCount [] []
      ((tree.absolute path).names.map .name) = withoutDots (tree.absolute path).names :=
    @resolveFrom_of_straight tree.root [] _ h _
  have hfind : tree.find ⟨1, withoutDots (tree.absolute path).names⟩ ≠ .error .tooManyLinks := by
    have hplaces : ∀ place, place <+: withoutDots (tree.absolute path).names →
        ∀ target, tree.root.at? place ≠ some (.link target) := by
      intro place hplace
      obtain ⟨front, hfront, rfl⟩ := exists_front hplace
      exact h front hfront
    have hway := @findFrom_ne_tooManyLinks tree.root [] _ (ne_up_of_mem_withoutDots _) hplaces maxLinks
    rw [find_eq, absolute_of_isAbsolute rfl]
    unfold refusal?
    split_ifs
    · exact nofun
    · exact nofun
    · change Except.map _ (findFrom tree.root maxLinks [] _) ≠ _
      cases hfound : findFrom tree.root maxLinks [] (withoutDots (tree.absolute path).names) with
      | ok found => exact nofun
      | error cause => exact fun heq => hway (hfound.trans (by cases heq; rfl))
  unfold resolve
  rw [if_neg hpath]
  dsimp only
  rw [hresolved]
  split
  · next hlinks => exact absurd hlinks hfind
  · rfl

end FileTree
end KotlinAudit
