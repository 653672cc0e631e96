import KotlinAudit.Discovery.Scan
import KotlinAudit.Proofs.FileTree.Listing
import KotlinAudit.Proofs.Glob.Reading
import KotlinAudit.Proofs.Outcome

/-! What a walk through a tree without links comes across: the files of the tree in the order of their
listing, but for those that are hidden themselves or stand in a directory that is not entered. -/
namespace KotlinAudit.Discovery

namespace Selection

/-- Every glob is a pattern. -/
def Readable (selection : Selection) : Prop :=
  ∀ glob ∈ selection.excludes, ∃ found, Glob.pattern glob.toList = .ok found

/-- Whether some glob excludes a relative path. -/
def hides (selection : Selection) (relative : List Char) : Bool :=
  selection.excludes.any fun glob => Glob.covers glob.toList (Layer.anchored relative)

/-- Whether a directory is walked into. -/
def enters (selection : Selection) (relative : List Char) : Bool :=
  !(selection.hides relative || selection.hides (relative ++ ['/']))

variable {selection : Selection}

theorem readable_of_ordinary (h : ∀ glob ∈ selection.excludes, Glob.Ordinary glob.toList) :
    selection.Readable := by
  intro glob hglob
  obtain ⟨found, hfound, -⟩ := Glob.exists_pattern (h glob hglob)
  exact ⟨found, hfound⟩

theorem matchesAny_eq {globs : List (List Char)}
    (h : ∀ glob ∈ globs, ∃ found, Glob.pattern glob = .ok found) (path : List Char) :
    Glob.matchesAny globs path = .ok (globs.any (Glob.covers · path)) := by
  induction globs with
  | nil => rfl
  | cons glob rest ih =>
    rw [List.forall_mem_cons] at h
    obtain ⟨found, hfound⟩ := h.1
    rw [Glob.matchesAny, hfound, List.any_cons, Glob.covers, hfound, ih h.2]
    dsimp only
    cases Glob.fits found path <;> rfl

theorem Readable.isExcluded (h : selection.Readable) (relative : List Char) :
    selection.isExcluded relative = .ok (selection.hides relative) := by
  unfold Selection.isExcluded
  rw [matchesAny_eq, hides, List.any_map]
  · rfl
  · intro glob hglob
    obtain ⟨text, htext, rfl⟩ := List.mem_map.1 hglob
    exact h text htext

theorem Readable.skipsDirectory (h : selection.Readable) (relative : List Char) :
    selection.skipsDirectory relative = .ok (!selection.enters relative) := by
  unfold Selection.skipsDirectory
  rw [h.isExcluded, h.isExcluded, enters, Bool.not_not]
  cases selection.hides relative <;> rfl

theorem Readable.admits (h : selection.Readable) (file : SourceFile) : selection.admits file =
    .ok (selection.isSource file.extension && !selection.hides file.relative.toList) := by
  unfold Selection.admits
  rw [h.isExcluded]
  cases selection.hides file.relative.toList
  · exact congrArg Except.ok (Bool.and_true _).symm
  · exact congrArg Except.ok (Bool.and_false _).symm

end Selection

namespace Scanner

variable {scanner : Scanner} {tree : FileTree}

/-- Whether the directory at a path is walked into. -/
def enters (scanner : Scanner) (path : Path) : Bool :=
  scanner.selection.enters (scanner.relative path).toList

/-- Whether the file at a path is to be analysed. -/
def takes (scanner : Scanner) (path : Path) : Bool :=
  scanner.selection.isSource path.extension && !scanner.selection.hides (scanner.relative path).toList

/-- Whether all directories on the way from a path down some names are walked into. -/
def reaches (scanner : Scanner) (path : Path) : List String → Bool
  | name :: next :: rest =>
    scanner.enters (path.child name) && scanner.reaches (path.child name) (next :: rest)
  | _ => true

@[simp] theorem reaches_nil (path : Path) : scanner.reaches path [] = true := rfl

@[simp] theorem reaches_singleton (path : Path) (name : String) :
    scanner.reaches path [name] = true := rfl

theorem reaches_iff {path : Path} {names : List String} : scanner.reaches path names = true ↔
    ∀ front rest, front ≠ [] → rest ≠ [] → names = front ++ rest →
      scanner.enters (path.under front) = true := by
  induction names generalizing path with
  | nil =>
    refine iff_of_true rfl fun front rest hfront _ h => ?_
    exact absurd (List.append_eq_nil_iff.1 h.symm).1 hfront
  | cons name more ih =>
    cases more with
    | nil =>
      refine iff_of_true rfl fun front rest hfront hrest h => ?_
      obtain ⟨first, others, rfl⟩ := List.exists_cons_of_ne_nil hfront
      obtain ⟨-, htail⟩ := List.cons.inj h
      exact absurd (List.append_eq_nil_iff.1 htail.symm).2 hrest
    | cons next rest =>
      rw [reaches, Bool.and_eq_true, ih]
      constructor
      · rintro ⟨hfirst, hothers⟩ front last hfront hlast h
        obtain ⟨first, others, rfl⟩ := List.exists_cons_of_ne_nil hfront
        obtain ⟨rfl, htail⟩ := List.cons.inj h
        by_cases hnone : others = []
        · rw [hnone]
          exact hfirst
        · have hdeeper := hothers others last hnone hlast htail
          rwa [Path.child_eq_under, Path.under_under] at hdeeper
      · intro h
        refine ⟨h [name] (next :: rest) (List.cons_ne_nil _ _) (List.cons_ne_nil _ _) rfl, ?_⟩
        intro front last hfront hlast heq
        rw [Path.child_eq_under, Path.under_under]
        exact h (name :: front) last (List.cons_ne_nil _ _) hlast (congrArg (name :: ·) heq)

/-- The sightings of the files at and below a path that a walk keeps. -/
def kept (scanner : Scanner) (tree : FileTree) (path : Path) (node : Node) : List Sighting :=
  (node.files.filter fun names => scanner.reaches path names && scanner.takes (path.under names)).map
    fun names => scanner.describe tree (path.under names)

theorem sightFile_eq (h : scanner.selection.Readable) (path : Path) (content : Content)
    (modified : Int) :
    scanner.sightFile tree path = .ok (scanner.kept tree path (.file content modified)) := by
  unfold sightFile
  rw [h.isExcluded, kept, Node.files, List.filter_singleton, Path.under_nil, takes, reaches_nil]
  cases scanner.selection.isSource path.extension with
  | false => rfl
  | true =>
    cases scanner.selection.hides (scanner.relative path).toList with
    | true => rfl
    | false =>
      change _ = Except.ok (List.map _ [[]])
      rw [List.map_singleton, Path.under_nil]
      rfl

/-- The subdirectories that are entered. -/
theorem filterM_enters (h : scanner.selection.Readable) (path : Path) (directories : List Part) :
    directories.filterM (fun part =>
      (! ·) <$> scanner.selection.skipsDirectory (scanner.relative (path.child part.name)).toList) =
        .ok (directories.filter fun part => scanner.enters (path.child part.name)) := by
  apply Outcome.filterM_of_forall
  intro part _
  rw [h.skipsDirectory]
  exact congrArg Except.ok (Bool.not_not _)

/-- Files first, then the subdirectories that are entered. -/
theorem together_eq (h : scanner.selection.Readable) (path : Path) (entries : List (String × Node))
    (own : String × Node → List Sighting) :
    scanner.together path (entries.map fun entry => ⟨entry.1, entry.2.isDirectory, .ok (own entry)⟩) =
      .ok (((Node.listed entries).filter fun entry =>
        !entry.2.isDirectory || scanner.enters (path.child entry.1)).flatMap own) := by
  set part : String × Node → Part := fun entry => ⟨entry.1, entry.2.isDirectory, .ok (own entry)⟩
  have hsorted : (entries.map part).mergeSort Part.le = (byName Prod.fst entries).map part :=
    byName_map part entries
  have hsplit : ((entries.map part).mergeSort Part.le).partition (·.isDirectory) =
      (((byName Prod.fst entries).filter (·.2.isDirectory)).map part,
        ((byName Prod.fst entries).filter (!·.2.isDirectory)).map part) := by
    rw [hsorted, List.partition_eq_filter_filter, List.filter_map, List.filter_map]
    rfl
  have hlisted : (Node.listed entries).filter (fun entry =>
      !entry.2.isDirectory || scanner.enters (path.child entry.1)) =
        (byName Prod.fst entries).filter (!·.2.isDirectory) ++
          ((byName Prod.fst entries).filter (·.2.isDirectory)).filter
            fun entry => scanner.enters (path.child entry.1) := by
    rw [Node.listed, inOrder, List.filter_append, List.filter_filter, List.filter_filter,
      List.filter_filter]
    congr 1 <;> apply List.filter_congr <;> intro entry _ <;> cases entry.2.isDirectory <;> simp
  have hread : ∀ items : List (String × Node),
      (items.map part).mapM (·.sightings) = Except.ok (items.map own) := by
    intro items
    rw [List.mapM_map]
    exact Outcome.mapM_of_forall fun _ _ => rfl
  unfold together
  rw [hsplit]
  dsimp only
  rw [filterM_enters h, List.filter_map, hlisted]
  change (List.map part _ ++ List.map part _).mapM (·.sightings) >>=
    (fun found => (.ok found.flatten : Sightings)) = _
  rw [← List.map_append, hread, List.flatMap_def]
  rfl

theorem walkEntries_eq {path : Path} {entries : List (String × Node)}
    (h : scanner.selection.Readable) (hplain : Node.PlainEntries entries)
    (hbelow : ∀ entry ∈ entries, entry.2.isDirectory = true →
      scanner.walk tree (path.child entry.1) entry.2 =
        .ok (scanner.kept tree (path.child entry.1) entry.2)) :
    scanner.walkEntries tree path entries = entries.map fun entry =>
      ⟨entry.1, entry.2.isDirectory, .ok (scanner.kept tree (path.child entry.1) entry.2)⟩ := by
  induction entries with
  | nil => rfl
  | cons entry rest ih =>
    obtain ⟨name, node⟩ := entry
    obtain ⟨-, hnode, hrest⟩ := hplain
    rw [List.forall_mem_cons] at hbelow
    rw [List.map_cons, ← ih hrest hbelow.2]
    cases node with
    | link target => exact absurd hnode id
    | file content modified =>
      rw [walkEntries, sightFile_eq h]
      rfl
    | directory entries =>
      rw [walkEntries, hbelow.1 rfl]
      rfl

theorem reaches_cons {path : Path} {name : String} {more : List String} (h : more ≠ []) :
    scanner.reaches path (name :: more) =
      (scanner.enters (path.child name) && scanner.reaches (path.child name) more) := by
  obtain ⟨next, rest, rfl⟩ := List.exists_cons_of_ne_nil h
  rfl

/-- What is kept of an entry of a directory; nothing is kept of a directory that is not entered. -/
theorem kept_entry (scanner : Scanner) (tree : FileTree) (path : Path) (name : String) (node : Node) :
    ((node.files.map (name :: ·)).filter fun names =>
        scanner.reaches path names && scanner.takes (path.under names)).map
          (fun names => scanner.describe tree (path.under names)) =
      if !node.isDirectory || scanner.enters (path.child name) then
        scanner.kept tree (path.child name) node else [] := by
  have hunder : ∀ more, path.under (name :: more) = (path.child name).under more := fun more => by
    rw [Path.child_eq_under, Path.under_under]
    rfl
  rw [List.filter_map, List.map_map]
  cases node with
  | link target => rfl
  | file content modified =>
    simp only [Node.files, kept, Node.isDirectory, Function.comp_def, hunder, List.filter_singleton,
      reaches_nil, reaches_singleton, Bool.not_false, Bool.true_or, if_true]
  | directory entries =>
    have hreaches : ∀ more ∈ (Node.directory entries).files, scanner.reaches path (name :: more) =
        (scanner.enters (path.child name) && scanner.reaches (path.child name) more) :=
      fun more hmore => reaches_cons (Node.ne_nil_of_mem_files hmore)
    have hfilter : (Node.directory entries).files.filter ((fun names =>
        scanner.reaches path names && scanner.takes (path.under names)) ∘ (name :: ·)) =
        (Node.directory entries).files.filter fun more => scanner.enters (path.child name) &&
          (scanner.reaches (path.child name) more && scanner.takes ((path.child name).under more)) := by
      refine List.filter_congr fun more hmore => ?_
      simp only [Function.comp_def, hreaches more hmore, hunder, Bool.and_assoc]
    rw [hfilter]
    cases scanner.enters (path.child name) with
    | true =>
      simp only [Function.comp_def, hunder, kept, Bool.true_and, Bool.or_true, if_true]
    | false => simp [Node.isDirectory]

/-- What is kept of a directory is what is kept under its names. -/
theorem kept_directory (scanner : Scanner) (tree : FileTree) (path : Path)
    (entries : List (String × Node)) :
    scanner.kept tree path (.directory entries) = ((Node.listed entries).filter fun entry =>
      !entry.2.isDirectory || scanner.enters (path.child entry.1)).flatMap
        fun entry => scanner.kept tree (path.child entry.1) entry.2 := by
  rw [kept, Node.files_directory, List.filter_flatMap, List.map_flatMap]
  simp only [kept_entry]
  induction Node.listed entries with
  | nil => rfl
  | cons entry rest ih =>
    rw [List.flatMap_cons, ih, List.filter_cons]
    split_ifs
    · rw [List.flatMap_cons]
    · rw [List.nil_append]

/-- A walk through a directory comes across the files of its listing that are kept. -/
theorem walk_eq (h : scanner.selection.Readable) (path : Path) {node : Node} (hplain : node.Plain)
    (hdirectory : node.isDirectory = true) :
    scanner.walk tree path node = .ok (scanner.kept tree path node) := by
  induction node using Node.entries_induction generalizing path with
  | file content modified => cases hdirectory
  | link target => cases hdirectory
  | directory entries ih =>
    have hbelow : ∀ entry ∈ entries, entry.2.isDirectory = true →
        scanner.walk tree (path.child entry.1) entry.2 =
          .ok (scanner.kept tree (path.child entry.1) entry.2) :=
      fun entry hentry hentered =>
        ih entry hentry _ (Node.plainEntries_iff.1 hplain.2 entry hentry).2 hentered
    rw [walk, walkEntries_eq h hplain.2 hbelow, together_eq h, kept_directory]

end Scanner
end KotlinAudit.Discovery
