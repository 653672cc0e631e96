import KotlinAudit.Proofs.FileTree.Finding
import KotlinAudit.Proofs.Path

/-! A directory that holds nothing but files. Its files can be read and written by their names, and
writing one of them leaves the others and the way to the directory as they are. What stands
below some directories is found under their names where no link stands on the way. -/
namespace KotlinAudit

namespace FileTree

theorem refusal?_eq_none_iff {path : Path} :
    refusal? path = none ↔ '\x00' ∉ path.text.toList ∧ path.text.utf8ByteSize ≤ maxPathSize := by
  unfold refusal?
  split
  · next h => simp [List.contains_iff_mem.1 h]
  · next h =>
    split
    · next hsize => simp [hsize]
    · next hsize => simpa using ⟨by simpa using h, by omega⟩

theorem exists_intercalate_append (names more : List String) :
    ∃ rest, "/".intercalate (names ++ more) = "/".intercalate names ++ rest := by
  by_cases hnames : names = []
  · exact ⟨"/".intercalate more, by rw [hnames]; simp⟩
  · by_cases hmore : more = []
    · exact ⟨"", by rw [hmore]; simp⟩
    · exact ⟨"/" ++ "/".intercalate more, by
        rw [String.intercalate_append_of_ne_nil hnames hmore, String.append_assoc]⟩

/-- What leads to a path that is not refused is not refused either. -/
theorem refusal?_of_append {slashes fewer : Nat} {names : List String} (more : List String)
    (hfewer : fewer ≠ 0)
    (hle : fewer ≤ slashes) (h : refusal? ⟨slashes, names ++ more⟩ = none) :
    refusal? ⟨fewer, names⟩ = none := by
  have hslashes : slashes ≠ 0 := by omega
  obtain ⟨rest, hrest⟩ := exists_intercalate_append names more
  rw [refusal?_eq_none_iff, Path.text_of_isAbsolute (by simpa [Path.isAbsolute] using hslashes),
    hrest] at h
  rw [refusal?_eq_none_iff, Path.text_of_isAbsolute (by simpa [Path.isAbsolute] using hfewer)]
  obtain ⟨hnul, hsize⟩ := h
  constructor
  · intro hmem
    apply hnul
    simp only [String.toList_append, String.toList_ofList, List.mem_append] at hmem ⊢
    rcases hmem with hslash | hname
    · exact absurd (List.eq_of_mem_replicate hslash) (by decide)
    · exact .inr (.inl hname)
  · have hless : (String.ofList (List.replicate fewer '/')).utf8ByteSize ≤
        (String.ofList (List.replicate slashes '/')).utf8ByteSize := by
      rw [← Nat.add_sub_of_le hle, ← List.replicate_append_replicate, String.ofList_append,
        String.utf8ByteSize_append]
      exact Nat.le_add_right _ _
    simp only [String.utf8ByteSize_append] at hsize ⊢
    omega

theorem absolute_child (tree : FileTree) (dir : Path) (name : String) :
    tree.absolute (dir.child name) = (tree.absolute dir).child name := by
  unfold absolute Path.join Path.child Path.isAbsolute
  dsimp only
  split
  · rfl
  · rw [List.append_assoc]

theorem find_eq (tree : FileTree) (path : Path) :
    tree.find path = match refusal? (tree.absolute path) with
      | some cause => .error cause
      | none => (findFrom tree.root maxLinks [] (tree.absolute path).names).map List.reverse := rfl

/-- A directory of files, which can be asked for from everywhere. -/
structure Shelf (tree : FileTree) (dir : Path) (entries : List (String × Node)) : Prop where
  here : tree.here.isAbsolute
  node : tree.node dir = .ok (.directory entries)
  files : ∀ name node, entries.lookup name = some node → node.isFile

/-- A name under which a file can be written into a directory. -/
structure Admits (tree : FileTree) (dir : Path) (name : String) : Prop where
  path : refusal? (tree.absolute (dir.child name)) = none
  notUp : name ≠ ".."
  size : name.utf8ByteSize ≤ maxNameSize

variable {tree : FileTree} {dir : Path} {entries : List (String × Node)} {name : String}

theorem node_of_find {path : Path} {names : List String} (h : tree.find path = .ok names) :
    tree.node path = match tree.root.at? names with
      | some found => .ok found
      | none => .error ⟨.missing, path⟩ := by
  cases hat : tree.root.at? names with
  | none => simp only [FileTree.node, h, hat]
  | some found => simp only [FileTree.node, h, hat]

theorem find_of_place {path : Path} {place : List String}
    (hpath : refusal? (tree.absolute path) = none)
    (hplace : findFrom tree.root maxLinks [] (tree.absolute path).names = .ok place) :
    tree.find path = .ok place.reverse := by
  rw [find_eq, hpath]
  dsimp only
  rw [hplace]
  rfl

theorem exists_place_of_node {path : Path} {node : Node} (h : tree.node path = .ok node) :
    refusal? (tree.absolute path) = none ∧ ∃ place,
      findFrom tree.root maxLinks [] (tree.absolute path).names = .ok place ∧
      tree.root.at? place.reverse = some node := by
  cases hrefusal : refusal? (tree.absolute path) with
  | some cause =>
    rw [FileTree.node, find_eq, hrefusal] at h
    cases h
  | none =>
    cases hfind : findFrom tree.root maxLinks [] (tree.absolute path).names with
    | error cause =>
      rw [FileTree.node, find_eq, hrefusal] at h
      dsimp only at h
      rw [hfind] at h
      cases h
    | ok place =>
      rw [node_of_find (find_of_place hrefusal hfind)] at h
      refine ⟨rfl, place, rfl, ?_⟩
      split at h
      · next found hfound =>
        cases h
        exact hfound
      · cases h

theorem node_of_place {path : Path} {node : Node} (place : List String)
    (hpath : refusal? (tree.absolute path) = none)
    (hplace : findFrom tree.root maxLinks [] (tree.absolute path).names = .ok place)
    (hnode : tree.root.at? place.reverse = some node) : tree.node path = .ok node := by
  rw [node_of_find (find_of_place hpath hplace), hnode]

/-- What stands under a name in a directory, unless it is a link. -/
theorem node_child (h : tree.node dir = .ok (.directory entries)) (hname : tree.Admits dir name)
    (hlink : ∀ link, entries.lookup name ≠ some (.link link)) :
    tree.node (dir.child name) = match entries.lookup name with
      | some node => .ok node
      | none => .error ⟨.missing, dir.child name⟩ := by
  obtain ⟨hdir, place, hplace, hentries⟩ := exists_place_of_node h
  obtain ⟨left, hleft⟩ := findFrom_append maxLinks [] (tree.absolute dir).names [name] hplace
  have hway : findFrom tree.root maxLinks [] (tree.absolute (dir.child name)).names =
      findFrom tree.root left place [name] := by
    rw [absolute_child]
    exact hleft
  rw [findFrom_cons hentries, if_neg hname.notUp,
    if_neg (Nat.not_lt_of_le hname.size)] at hway
  cases hlookup : entries.lookup name with
  | none =>
    rw [hlookup] at hway
    unfold FileTree.node
    rw [find_eq, hname.path]
    dsimp only
    rw [hway]
    rfl
  | some node =>
    rw [hlookup] at hway
    have hat : tree.root.at? (name :: place).reverse = some node := by
      rw [List.reverse_cons, Node.at?_append_singleton hentries, hlookup]
    have hstep : findFrom tree.root left (name :: place) [] = .ok (name :: place) := by
      rw [findFrom_nil, hat]
      rfl
    cases node with
    | directory entries => exact node_of_place (name :: place) hname.path (hway.trans hstep) hat
    | link target => exact absurd hlookup (hlink target)
    | file content modified =>
      exact node_of_place (name :: place) hname.path (hway.trans hstep) hat

theorem Shelf.node_child (h : tree.Shelf dir entries) (hname : tree.Admits dir name) :
    tree.node (dir.child name) = match entries.lookup name with
      | some node => .ok node
      | none => .error ⟨.missing, dir.child name⟩ := by
  refine FileTree.node_child h.node hname fun link hlink => ?_
  have hfile := h.files name _ hlink
  cases hfile

/-! ### Making a directory that is there -/

theorem absolute_of_isAbsolute {path : Path} (h : path.isAbsolute) : tree.absolute path = path := by
  rw [absolute, Path.join, if_pos h]

theorem isAbsolute_absolute (h : tree.here.isAbsolute) (path : Path) :
    (tree.absolute path).isAbsolute := Path.isAbsolute_join h

theorem node_names {path : Path} {node : Node} (hhere : tree.here.isAbsolute)
    (h : tree.node path = .ok node) : tree.node ⟨1, (tree.absolute path).names⟩ = .ok node := by
  obtain ⟨hpath, place, hplace, hnode⟩ := exists_place_of_node h
  have hslashes : (tree.absolute path).slashes ≠ 0 := by
    simpa [Path.isAbsolute] using isAbsolute_absolute hhere path
  have habsolute : tree.absolute ⟨1, (tree.absolute path).names⟩ =
      ⟨1, (tree.absolute path).names⟩ := absolute_of_isAbsolute rfl
  refine node_of_place place ?_ ?_ hnode
  · rw [habsolute]
    refine refusal?_of_append [] Nat.one_ne_zero (Nat.one_le_iff_ne_zero.2 hslashes) ?_
    rw [List.append_nil]
    exact hpath
  · rw [habsolute]
    exact hplace

theorem placeOf_of_up {path : Path} (hpath : refusal? (tree.absolute path) = none)
    (hlast : (tree.absolute path).names.getLast? = some "..") :
    tree.placeOf path = .error .isDirectory := by
  simp only [placeOf, hpath, hlast]

/-- Where the last name of a path stands in the directory above it. -/
theorem placeOf_eq {path : Path} {last : String} {above : List String}
    (hpath : refusal? (tree.absolute path) = none)
    (hlast : (tree.absolute path).names.getLast? = some last) (hdots : last ≠ "..")
    (habove : tree.find (tree.absolute path).parent = .ok above)
    (hentries : tree.root.at? above = some (.directory entries))
    (hsize : ¬maxNameSize < last.utf8ByteSize) : tree.placeOf path = .ok (above ++ [last]) := by
  simp only [placeOf, hpath, hlast, habove, hentries, if_neg hsize]

theorem makeOne_of_directory {names : List String} {last : String}
    (h : tree.node ⟨1, names ++ [last]⟩ = .ok (.directory entries)) :
    tree.makeOne ⟨1, names ++ [last]⟩ = .error .present := by
  obtain ⟨hpath, place, hplace, hnode⟩ := exists_place_of_node h
  have habsolute : tree.absolute ⟨1, names ++ [last]⟩ = ⟨1, names ++ [last]⟩ :=
    absolute_of_isAbsolute rfl
  have hlast : (tree.absolute ⟨1, names ++ [last]⟩).names.getLast? = some last := by
    rw [habsolute]
    exact List.getLast?_concat
  have hfind : tree.find ⟨1, names ++ [last]⟩ = .ok place.reverse := find_of_place hpath hplace
  unfold makeOne
  by_cases hdots : last = ".."
  · rw [placeOf_of_up hpath (hdots ▸ hlast)]
    dsimp only
    rw [hfind]
    rfl
  · -- the directory above is there, and the last name in it
    rw [habsolute] at hpath hplace
    obtain ⟨middle, hmiddle⟩ := exists_of_findFrom_append maxLinks [] names [last] hplace
    obtain ⟨left, hleft⟩ := findFrom_append maxLinks [] names [last] hmiddle
    have hway := hplace.symm.trans hleft
    obtain ⟨above, habove⟩ := exists_directory_of_findFrom hway.symm
    rw [findFrom_cons habove, if_neg hdots] at hway
    have hparent : tree.find (tree.absolute ⟨1, names ++ [last]⟩).parent = .ok middle.reverse := by
      have hdrop : (⟨1, names ++ [last]⟩ : Path).parent = ⟨1, names⟩ := by
        rw [Path.parent, List.dropLast_concat]
      rw [habsolute, hdrop, find_eq, absolute_of_isAbsolute rfl,
        refusal?_of_append [last] Nat.one_ne_zero (Nat.le_refl 1) hpath]
      dsimp only
      rw [hmiddle]
      rfl
    by_cases hsize : maxNameSize < last.utf8ByteSize
    · rw [if_pos hsize] at hway
      cases hway
    · rw [if_neg hsize] at hway
      cases hlookup : above.lookup last with
      | none =>
        rw [hlookup] at hway
        cases hway
      | some child =>
        rw [placeOf_eq (habsolute.symm ▸ hpath) hlast hdots hparent habove hsize]
        dsimp only
        rw [Node.at?_append_singleton habove, hlookup]

/-- Making a directory that is there changes nothing. -/
theorem makeAll_of_directory {names : List String}
    (h : tree.node ⟨1, names⟩ = .ok (.directory entries)) :
    tree.makeAll names.reverse = (tree, .ok ()) := by
  rcases List.eq_nil_or_concat names with rfl | ⟨front, last, rfl⟩
  · rfl
  · rw [List.concat_eq_append] at h ⊢
    have hreverse : (last :: front.reverse).reverse = front ++ [last] := by simp
    have hdirectory : tree.hasDirectory ⟨1, front ++ [last]⟩ = .ok true := by
      rw [hasDirectory, node?, h]
      rfl
    rw [List.reverse_concat, makeAll, hreverse, makeOne_of_directory h]
    unfold orPresent
    simp only [hdirectory]

theorem makeDirectory_of_directory (hhere : tree.here.isAbsolute)
    (h : tree.node dir = .ok (.directory entries)) : tree.makeDirectory dir = (tree, .ok ()) :=
  makeAll_of_directory (node_names hhere h)

/-! ### Writing -/

/-- What a file of a directory holds, if it is there. -/
def held (entries : List (String × Node)) (name : String) : Option Content :=
  match entries.lookup name with
  | some (.file content _) => some content
  | _ => none

theorem getLast?_absolute_child (dir : Path) (name : String) :
    (tree.absolute (dir.child name)).names.getLast? = some name := by
  rw [absolute_child]
  exact List.getLast?_concat

/-- The way to the directory of a file. -/
theorem Shelf.find_parent (h : tree.Shelf dir entries) {place : List String}
    (hplace : findFrom tree.root maxLinks [] (tree.absolute dir).names = .ok place) (name : String) :
    tree.find (tree.absolute (dir.child name)).parent = .ok place.reverse := by
  obtain ⟨hdir, -⟩ := exists_place_of_node h.node
  have habsolute : tree.absolute (tree.absolute dir) = tree.absolute dir :=
    absolute_of_isAbsolute (isAbsolute_absolute h.here dir)
  have hparent : ((tree.absolute dir).child name).parent = tree.absolute dir := by
    unfold Path.child Path.parent
    rw [List.dropLast_concat]
  rw [absolute_child, hparent]
  exact find_of_place (habsolute.symm ▸ hdir) (habsolute.symm ▸ hplace)

theorem Shelf.placeToWrite (h : tree.Shelf dir entries) (hname : tree.Admits dir name)
    {place : List String}
    (hplace : findFrom tree.root maxLinks [] (tree.absolute dir).names = .ok place)
    (hentries : tree.root.at? place.reverse = some (.directory entries)) :
    tree.placeToWrite maxLinks (tree.absolute (dir.child name)) =
      .ok (place.reverse ++ [name], held entries name) := by
  have hlast : (tree.absolute (dir.child name)).names.getLast? = some name :=
    getLast?_absolute_child dir name
  have hparent := h.find_parent hplace name
  have hdots := hname.notUp
  rw [FileTree.placeToWrite.eq_def]
  simp only [hlast, hparent, hentries]
  rw [if_neg (Nat.not_lt_of_le hname.size), held]
  cases hlookup : entries.lookup name with
  | none => rfl
  | some node =>
    have hfile := h.files name node hlookup
    cases node with
    | directory entries => cases hfile
    | link target => cases hfile
    | file content modified => rfl

/-- Writing a file of the directory, which replaces it or puts it there. -/
theorem Shelf.update (h : tree.Shelf dir entries) (hname : tree.Admits dir name) (modified : Int)
    (change : Option Content → Content) :
    ∃ after, tree.update (dir.child name) modified change = .ok after ∧ after.here = tree.here ∧
      after.Shelf dir (Node.setEntry name
        (some (.file (change (held entries name)) modified)) entries) := by
  obtain ⟨hdir, place, hplace, hentries⟩ := exists_place_of_node h.node
  have hwrite := h.placeToWrite hname hplace hentries
  refine ⟨tree.set (place.reverse ++ [name]) (some (.file (change (held entries name)) modified)),
    ?_, rfl, h.here, ?_, ?_⟩
  · rw [FileTree.update, hname.path, hwrite]
  · have hgrows : Node.Grows tree.root
        (tree.set (place.reverse ++ [name]) (some (.file (change (held entries name)) modified))).root :=
      Node.grows_set hentries name fun old hold => ⟨h.files name old hold, rfl⟩
    exact node_of_place _ hdir (findFrom_of_grows hgrows maxLinks [] _ hplace)
      (Node.at?_set hentries name)
  · intro other node hnode
    rw [Node.lookup_setEntry] at hnode
    split at hnode
    · cases hnode
      rfl
    · exact h.files other node hnode

/-! ### Ways without links -/

/-- Names that are looked up one below the other. -/
abbrev PlainNames (names : List String) : Prop :=
  ∀ name ∈ names, name ≠ ".." ∧ name.utf8ByteSize ≤ maxNameSize

/-- On the way to what stands somewhere there are directories. -/
theorem exists_child_of_at? {root node : Node} {place rest : List String} {name : String}
    (h : root.at? (place ++ name :: rest) = some node) : ∃ entries child,
      root.at? place = some (.directory entries) ∧ entries.lookup name = some child ∧
        child.at? rest = some node := by
  rw [Node.at?_append] at h
  obtain ⟨middle, hmiddle, hrest⟩ := Option.bind_eq_some_iff.1 h
  cases middle with
  | file content modified => cases hrest
  | link target => cases hrest
  | directory entries =>
    rw [Node.at?_cons_directory] at hrest
    obtain ⟨child, hchild, hnode⟩ := Option.bind_eq_some_iff.1 hrest
    exact ⟨entries, child, hmiddle, hchild, hnode⟩

theorem ne_link_of_at? {child node : Node} {rest : List String} (h : child.at? rest = some node)
    (hnode : ∀ target, node ≠ .link target) (target : Path) : child ≠ .link target := by
  rintro rfl
  cases rest with
  | nil => exact hnode target (Option.some.inj h).symm
  | cons name rest => cases h

/-- Plain names are gone one below the other, whatever comes behind them. -/
theorem findFrom_append_of_at? {root node : Node} (links : Nat) {place names : List String}
    (hnames : PlainNames names) (hnode : ∀ target, node ≠ .link target)
    (h : root.at? (place.reverse ++ names) = some node) (more : List String) :
    findFrom root links place (names ++ more) = findFrom root links (names.reverse ++ place) more := by
  induction names generalizing place with
  | nil => rfl
  | cons name rest ih =>
    obtain ⟨entries, child, hentries, hchild, hrest⟩ := exists_child_of_at? h
    obtain ⟨⟨hdots, hsize⟩, hothers⟩ := List.forall_mem_cons.1 hnames
    have hlonger : root.at? ((name :: place).reverse ++ rest) = some node := by
      rw [List.reverse_cons, List.append_assoc]
      exact h
    rw [List.cons_append, findFrom_cons hentries, if_neg hdots, if_neg (Nat.not_lt_of_le hsize),
      hchild, List.reverse_cons, List.append_assoc]
    have hlink := ne_link_of_at? hrest hnode
    cases child with
    | link target => exact absurd rfl (hlink target)
    | file content modified => exact ih hothers hlonger
    | directory entries => exact ih hothers hlonger

/-- Plain names lead to what stands below them. -/
theorem findFrom_of_at? {root node : Node} (links : Nat) {place names : List String}
    (hnames : PlainNames names) (hnode : ∀ target, node ≠ .link target)
    (h : root.at? (place.reverse ++ names) = some node) :
    findFrom root links place names = .ok (names.reverse ++ place) := by
  have hfind := findFrom_append_of_at? links hnames hnode h []
  rw [List.append_nil, findFrom_nil, List.reverse_append, List.reverse_reverse, h] at hfind
  exact hfind

/-- Plain names are resolved to themselves. -/
theorem resolveFrom_of_at? {root node : Node} (links : Nat) {place names : List String}
    (hnames : PlainNames names) (hnode : ∀ target, node ≠ .link target)
    (h : root.at? (place.reverse ++ names) = some node) :
    resolveFrom root links [] place (names.map .name) = place.reverse ++ names := by
  induction names generalizing place with
  | nil =>
    rw [List.map_nil, resolveFrom, List.append_nil]
  | cons name rest ih =>
    obtain ⟨entries, child, hentries, hchild, hrest⟩ := exists_child_of_at? h
    obtain ⟨⟨hdots, -⟩, hothers⟩ := List.forall_mem_cons.1 hnames
    have hlonger : root.at? ((name :: place).reverse ++ rest) = some node := by
      rw [List.reverse_cons, List.append_assoc]
      exact h
    have hat : root.at? (name :: place).reverse = some child := by
      rw [List.reverse_cons, Node.at?_append_singleton hentries, hchild]
    have hlink := ne_link_of_at? hrest hnode
    rw [List.map_cons, resolveFrom.eq_def]
    dsimp only
    rw [if_neg hdots, hat]
    have hstep : resolveFrom root links [] (name :: place) (rest.map .name) =
        place.reverse ++ name :: rest := by
      rw [ih hothers hlonger, List.reverse_cons, List.append_assoc]
      rfl
    cases child with
    | link target => exact absurd rfl (hlink target)
    | file content modified => exact hstep
    | directory entries => exact hstep

variable {path : Path} {node : Node}

/-- What stands at a path without links. -/
theorem node_of_at? (hpath : refusal? (tree.absolute path) = none)
    (hnames : PlainNames (tree.absolute path).names) (hnode : ∀ target, node ≠ .link target)
    (h : tree.root.at? (tree.absolute path).names = some node) : tree.node path = .ok node := by
  have hplace : findFrom tree.root maxLinks [] (tree.absolute path).names =
      .ok ((tree.absolute path).names.reverse ++ []) := findFrom_of_at? maxLinks hnames hnode h
  refine node_of_place _ hpath hplace ?_
  rw [List.append_nil, List.reverse_reverse]
  exact h

/-- An absolute path without links is resolved to itself. -/
theorem resolve_of_at? {names : List String} (hpath : refusal? ⟨1, names⟩ = none)
    (hnames : PlainNames names) (hnode : ∀ target, node ≠ .link target)
    (h : tree.root.at? names = some node) : tree.resolve ⟨1, names⟩ = .ok ⟨1, names⟩ := by
  have habsolute : tree.absolute ⟨1, names⟩ = ⟨1, names⟩ := absolute_of_isAbsolute rfl
  have hplace : findFrom tree.root maxLinks [] names = .ok (names.reverse ++ []) :=
    findFrom_of_at? maxLinks hnames hnode h
  have hfind : tree.find ⟨1, names⟩ = .ok names := by
    rw [find_of_place (by rwa [habsolute]) (by rwa [habsolute]), List.append_nil,
      List.reverse_reverse]
  have hresolve : resolveFrom tree.root tree.root.linkCount [] [] (names.map .name) = names :=
    resolveFrom_of_at? _ hnames hnode h
  unfold resolve
  rw [hpath, if_neg (by simp), habsolute]
  dsimp only
  rw [hresolve, hfind]

end FileTree
end KotlinAudit
