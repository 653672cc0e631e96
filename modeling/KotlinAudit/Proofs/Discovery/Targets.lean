import KotlinAudit.Proofs.Discovery.Pruning
import KotlinAudit.Proofs.FileTree.Making

/-! Several targets in a row. A source file is told from all others by its path, whatever walk has come
across it, so that the targets of a list stand for the same files in any order and every part of the
list adds what the parts before it have not found. -/
namespace KotlinAudit

/-! ### What a tree without links can be asked for -/

/-- A way is followed to its end unless a name is too long in a directory that is there. -/
theorem Node.exists_seek_iff {names : List String} {node : Node} :
    (∃ found, node.seek names = .ok found) ↔
      ∀ front name back entries, names = front ++ name :: back →
        node.at? front = some (.directory entries) → name.utf8ByteSize ≤ FileTree.maxNameSize := by
  induction names generalizing node with
  | nil =>
    refine iff_of_true ⟨_, rfl⟩ fun front name back entries hnames => ?_
    exact absurd hnames.symm (List.append_ne_nil_of_right_ne_nil _ (List.cons_ne_nil _ _))
  | cons first rest ih =>
    cases node with
    | file content modified =>
      refine iff_of_true ⟨_, rfl⟩ fun front name back entries _ hfront => ?_
      cases front <;> cases hfront
    | link target =>
      refine iff_of_true ⟨_, rfl⟩ fun front name back entries _ hfront => ?_
      cases front <;> cases hfront
    | directory inner =>
      rw [Node.seek]
      by_cases hlong : FileTree.maxNameSize < first.utf8ByteSize
      · rw [if_pos hlong]
        refine iff_of_false ?_ fun hall => ?_
        · rintro ⟨found, hfound⟩
          cases hfound
        · exact Nat.not_le_of_gt hlong (hall [] first rest inner rfl rfl)
      · rw [if_neg hlong]
        have hfirst := Nat.le_of_not_gt hlong
        cases hchild : inner.lookup first with
        | none =>
          refine iff_of_true ⟨_, rfl⟩ fun front name back entries hnames hfront => ?_
          cases front with
          | nil => exact (List.cons.inj hnames).1 ▸ hfirst
          | cons other others =>
            rw [← (List.cons.inj hnames).1, Node.at?_cons_directory, hchild] at hfront
            cases hfront
        | some child =>
          refine ih.trans ⟨fun hall front name back entries hnames hfront => ?_,
            fun hall front name back entries hnames hfront => ?_⟩
          · cases front with
            | nil => exact (List.cons.inj hnames).1 ▸ hfirst
            | cons other others =>
              obtain ⟨rfl, hothers⟩ := List.cons.inj hnames
              rw [Node.at?_cons_directory, hchild] at hfront
              exact hall others name back entries hothers hfront
          · refine hall (first :: front) name back entries (congrArg (first :: ·) hnames) ?_
            rw [Node.at?_cons_directory, hchild]
            exact hfront

namespace FileTree

variable {tree : FileTree} {names : List String}

/-- Names from the root on that are not too long, neither together nor one of them in a directory that
is there. -/
structure Fits (tree : FileTree) (names : List String) : Prop where
  path : refusal? ⟨1, names⟩ ≠ some .nameTooLong
  name : refusal? ⟨1, names⟩ = none → ∀ front name back entries, names = front ++ name :: back →
    tree.root.at? front = some (.directory entries) → name.utf8ByteSize ≤ maxNameSize

theorem exists_node?_iff (hplain : tree.root.Plain) (hnames : ∀ name ∈ names, name ≠ "..") :
    (∃ found, tree.node? ⟨1, names⟩ = .ok found) ↔ tree.Fits names := by
  cases hrefusal : refusal? ⟨1, names⟩ with
  | some cause =>
    have hnode : tree.node ⟨1, names⟩ = .error ⟨cause, ⟨1, names⟩⟩ := by
      rw [FileTree.node, find_eq, absolute_rooted, hrefusal]
    rw [node?, hnode]
    dsimp only
    by_cases hlong : cause = .nameTooLong
    · rw [if_pos hlong]
      refine iff_of_false ?_ fun h => h.path (hlong ▸ hrefusal)
      rintro ⟨found, hfound⟩
      cases hfound
    · rw [if_neg hlong]
      refine iff_of_true ⟨_, rfl⟩ ⟨fun heq => hlong ?_, fun heq => ?_⟩
      · exact Option.some.inj (hrefusal.symm.trans heq)
      · cases hrefusal.symm.trans heq
  | none =>
    have hstands : tree.Stands ⟨1, []⟩ tree.root :=
      ⟨rfl, fun _ hname => absurd hname List.not_mem_nil, rfl⟩
    have hnode : tree.node? ⟨1, names⟩ = (tree.root.seek names).mapError (⟨·, ⟨1, names⟩⟩) :=
      hstands.node?_under hplain hnames hrefusal
    rw [hnode]
    simp only [Outcome.mapError_eq_ok]
    rw [Node.exists_seek_iff]
    refine ⟨fun hall => ⟨fun hlong => ?_, fun _ => hall⟩, fun h => h.name hrefusal⟩
    cases hrefusal.symm.trans hlong

end FileTree

namespace Discovery.Scanner

variable {scanner : Scanner} {tree : FileTree} {place : Path} {file : SourceFile}

/-! ### Walks

What holds of every walk is proved from its parts. -/

/-- What holds where nothing is sighted, of all that is no directory and of a directory if of its parts,
holds of a walk. -/
theorem walk_induction {motive : Sightings → Prop} (nothing : motive (.ok []))
    (sight : ∀ path, motive (scanner.sightFile tree path))
    (together : ∀ path parts, (∀ part ∈ parts, motive part.sightings) →
      motive (scanner.together path parts))
    (path : Path) (node : Node) : motive (scanner.walk tree path node) := by
  induction node using Node.entries_induction generalizing path with
  | file content modified => exact nothing
  | link target => exact nothing
  | directory entries ih =>
    refine together path _ ?_
    induction entries with
    | nil => exact fun part hpart => absurd hpart List.not_mem_nil
    | cons entry rest ihRest =>
      obtain ⟨name, node⟩ := entry
      rw [List.forall_mem_cons] at ih
      have hrest := ihRest ih.2
      cases node with
      | file content modified => exact List.forall_mem_cons.2 ⟨sight _, hrest⟩
      | directory inner => exact List.forall_mem_cons.2 ⟨ih.1 _, hrest⟩
      | link target =>
        refine List.forall_mem_cons.2 ⟨?_, hrest⟩
        dsimp only
        split
        · exact nothing
        · exact sight _

theorem exists_sightFile (h : scanner.selection.Readable) (path : Path) :
    ∃ sightings, scanner.sightFile tree path = .ok sightings := by
  unfold sightFile
  rw [h.isExcluded]
  cases scanner.selection.isSource path.extension with
  | false => exact ⟨_, rfl⟩
  | true => cases scanner.selection.hides (scanner.relative path).toList <;> exact ⟨_, rfl⟩

theorem exists_together (h : scanner.selection.Readable) (path : Path) {parts : List Part}
    (hparts : ∀ part ∈ parts, ∃ own, part.sightings = .ok own) :
    ∃ sightings, scanner.together path parts = .ok sightings := by
  unfold together
  rw [List.partition_eq_filter_filter]
  dsimp only
  rw [filterM_enters h]
  have hsorted : parts.mergeSort Part.le ⊆ parts := (List.mergeSort_perm parts Part.le).subset
  obtain ⟨found, hfound⟩ := Outcome.exists_mapM <| List.forall_mem_append.2
    ⟨fun part hin => hparts part (hsorted (List.mem_filter.1 hin).1),
      fun part hin => hparts part (hsorted (List.mem_filter.1 (List.mem_filter.1 hin).1).1)⟩
  exact ⟨found.flatten, Outcome.bind_eq_ok.2 ⟨_, rfl, Outcome.bind_eq_ok.2 ⟨found, hfound, rfl⟩⟩⟩

/-- Where every glob is a pattern, a walk comes to an end, through links as well. -/
theorem exists_walk (h : scanner.selection.Readable) (path : Path) (node : Node) :
    ∃ sightings, scanner.walk tree path node = .ok sightings :=
  walk_induction (motive := fun outcome => ∃ sightings, outcome = .ok sightings) ⟨[], rfl⟩
    (exists_sightFile h) (fun path _ => exists_together h path) path node

/-- A source file as it is described at its own path, and to be analysed. -/
structure Offers (scanner : Scanner) (tree : FileTree) (file : SourceFile) : Prop where
  described : scanner.describe tree file.path = .source file
  admitted : scanner.selection.admits file = .ok true

/-- The path of a source file tells all of it. -/
theorem Offers.unique {other : SourceFile} (h : scanner.Offers tree file)
    (hother : scanner.Offers tree other) (hpath : other.path = file.path) : other = file := by
  have hsame := h.described.symm.trans (hpath ▸ hother.described)
  cases hsame
  rfl

theorem offers_sightFile {path : Path} {sightings : List Sighting}
    (h : scanner.sightFile tree path = .ok sightings) (hfile : .source file ∈ sightings) :
    scanner.Offers tree file := by
  unfold sightFile at h
  split at h
  · cases h
    cases hfile
  · next hsource =>
    obtain ⟨excluded, hexcluded, hrest⟩ := Outcome.bind_eq_ok.1 h
    cases excluded with
    | true =>
      cases hrest
      cases hfile
    | false =>
      cases hrest
      have hdescribed := (List.mem_singleton.1 hfile).symm
      obtain ⟨rfl, hrelative⟩ := relative_of_describe hdescribed
      refine ⟨hdescribed, ?_⟩
      unfold Selection.admits
      rw [hrelative, hexcluded]
      exact congrArg Except.ok (by simpa [SourceFile.extension] using hsource)

theorem offers_walk {path : Path} {node : Node} {sightings : List Sighting}
    (h : scanner.walk tree path node = .ok sightings) (hfile : .source file ∈ sightings) :
    scanner.Offers tree file := by
  have hall : ∀ found, scanner.walk tree path node = .ok found → ∀ file, .source file ∈ found →
      scanner.Offers tree file := by
    refine walk_induction (motive := fun outcome => ∀ found, outcome = .ok found →
      ∀ file, .source file ∈ found → scanner.Offers tree file) ?_ ?_ ?_ path node
    · intro found hfound file hfile
      cases hfound
      cases hfile
    · exact fun path found hfound file hfile => offers_sightFile hfound hfile
    · intro path parts hparts found hfound file hfile
      obtain ⟨part, hpart, own, hown, hin⟩ := exists_part_of_together hfound hfile
      exact hparts part hpart own hown file hin
  exact hall sightings h file hfile

/-! ### One target -/

/-- The tree can be asked for the place to which a target leads. -/
def Answers (scanner : Scanner) (tree : FileTree) (path : Path) : Prop :=
  ∃ place found, scanner.resolve tree path = .ok place ∧ tree.node? place = .ok found

/-- A tree without links can be asked for every target without a NUL and without names that are too
long. -/
theorem answers_iff_of_plain (hplain : tree.root.Plain) (path : Path) :
    scanner.Answers tree path ↔ FileTree.refusal? (scanner.root.join path) ≠ some .nul ∧
      tree.Fits (FileTree.withoutDots (tree.absolute (scanner.root.join path)).names) := by
  rw [← FileTree.exists_node?_iff hplain (FileTree.ne_up_of_mem_withoutDots _)]
  by_cases hnul : FileTree.refusal? (scanner.root.join path) = some .nul
  · refine iff_of_false ?_ fun h => h.1 hnul
    rintro ⟨place, found, hplace, -⟩
    have hresolve := resolve_eq_ok hplace
    rw [FileTree.resolve, if_pos hnul] at hresolve
    cases hresolve
  · rw [and_iff_right hnul]
    have hresolve := FileTree.resolve_of_straight hnul
      (FileTree.linkless_of_plain hplain (scanner.root.join path)).way
    constructor
    · rintro ⟨place, found, hplace, hfound⟩
      obtain rfl := Except.ok.inj (hresolve.symm.trans (resolve_eq_ok hplace))
      exact ⟨found, hfound⟩
    · rintro ⟨found, hfound⟩
      refine ⟨_, found, ?_, hfound⟩
      unfold Scanner.resolve
      rw [hresolve]
      rfl

/-- A target leads to a place at which there is neither a directory nor a file. -/
structure Misses (scanner : Scanner) (tree : FileTree) (path place : Path) : Prop where
  resolved : scanner.resolve tree path = .ok place
  directory : tree.hasDirectory place = .ok false
  file : tree.hasFile place = .ok false

/-- What is kept for a file of what is found around it. -/
def alone (place : Path) (around : Found) : Found :=
  let files := around.files.filter (·.path = place)
  ⟨files, around.notices ++ if files.isEmpty then
    [.debug ("skipping " ++ place.text ++ ": excluded or not a recognised source file")] else []⟩

/-- A target is looked up at the place to which it leads. -/
theorem target_of_resolve {path : Path} (h : scanner.resolve tree path = .ok place) :
    scanner.target tree path = match tree.node? place with
      | .error error => .error (.place error)
      | .ok (some (.directory _)) => scanner.scanAt tree place
      | .ok (some (.file _ _)) => (scanner.scanAt tree place.parent).map (alone place)
      | .ok _ => .ok ⟨[], [.warn ("File not found: " ++ place.text)]⟩ := by
  simp only [target, h, bind, Except.bind, FileTree.hasDirectory, FileTree.hasFile]
  cases tree.node? place with
  | error error => rfl
  | ok found =>
    cases found with
    | none => rfl
    | some node =>
      cases node with
      | directory entries => rfl
      | link other => rfl
      | file content modified =>
        dsimp only
        cases scanner.scanAt tree place.parent <;> rfl

theorem exists_directory_of_leads {names : List String} (h : tree.Leads names) :
    ∃ entries, tree.node? ⟨1, names⟩ = .ok (some (.directory entries)) := by
  obtain ⟨entries, hnode⟩ := h
  exact ⟨entries, by rw [FileTree.node?, hnode]⟩

/-- A file stands in a directory. -/
theorem exists_directory_of_file (hroot : tree.root.isDirectory = true) (hslashes : place.slashes = 1)
    {content : Content} {modified : Int} (h : tree.node? place = .ok (some (.file content modified))) :
    ∃ entries, tree.node? place.parent = .ok (some (.directory entries)) := by
  obtain ⟨slashes, names⟩ := place
  obtain rfl : slashes = 1 := hslashes
  have hnode : tree.node ⟨1, names⟩ = .ok (.file content modified) := by
    unfold FileTree.node? at h
    split at h
    · next node hfound => exact (Option.some.inj (Except.ok.inj h)) ▸ hfound
    · split at h <;> cases h
  rcases List.eq_nil_or_concat names with rfl | ⟨front, last, rfl⟩
  · obtain ⟨-, last, hlast, hat⟩ := FileTree.exists_place_of_node hnode
    rw [FileTree.absolute_rooted, FileTree.findFrom_nil] at hlast
    cases hlast
    have hfile : tree.root = .file content modified := Option.some.inj hat
    rw [hfile] at hroot
    cases hroot
  · rw [List.concat_eq_append] at hnode ⊢
    rw [Path.parent, List.dropLast_concat]
    exact exists_directory_of_leads (FileTree.leads_of_node hnode (List.cons_ne_nil _ _))

/-- What comes of a target: the tree cannot be asked for it, nothing is found there, or files are taken
from what a walk comes across. -/
inductive Comes (scanner : Scanner) (tree : FileTree) (path : Path) : Prop
  | refused (error : FileError) (hasked : ¬scanner.Answers tree path)
    (h : scanner.target tree path = .error (.place error))
  | missed (place : Path) (hasked : scanner.Answers tree path)
    (h : scanner.target tree path = .ok ⟨[], [.warn ("File not found: " ++ place.text)]⟩)
  | read (dir : Path) (node : Node) (take : List Sighting → Found) (hasked : scanner.Answers tree path)
    (htake : ∀ sightings, (take sightings).files ⊆ sightings.filterMap Sighting.source?)
    (h : scanner.target tree path = ((scanner.walk tree dir node).mapError .glob).map take)

theorem scanAt_eq_walk {entries : List (String × Node)}
    (h : tree.node? place = .ok (some (.directory entries))) : scanner.scanAt tree place =
      ((scanner.walk tree place (.directory entries)).mapError .glob).map .ofSightings := by
  rw [scanAt_of_node? h]
  cases scanner.walk tree place (.directory entries) <;> rfl

theorem resolve_eq_error {path : Path} {error : DiscoveryError}
    (h : scanner.resolve tree path = .error error) : ∃ refusal, error = .place refusal := by
  unfold resolve at h
  cases hpath : tree.resolve (scanner.root.join path) with
  | ok found =>
    rw [hpath] at h
    cases h
  | error refusal =>
    rw [hpath] at h
    exact ⟨refusal, (Except.error.inj h).symm⟩

/-- A target that leads to a place for which the tree can be asked. -/
theorem comes_of_node? {path : Path} {found : Option Node} (hroot : tree.root.isDirectory = true)
    (hresolve : scanner.resolve tree path = .ok place) (hnode : tree.node? place = .ok found) :
    scanner.Comes tree path := by
  have hasked : scanner.Answers tree path := ⟨place, found, hresolve, hnode⟩
  have htarget := target_of_resolve hresolve
  rw [hnode] at htarget
  match found with
  | none => exact .missed place hasked htarget
  | some (.link other) => exact .missed place hasked htarget
  | some (.directory entries) =>
    exact .read place (.directory entries) .ofSightings hasked (fun _ => List.Subset.refl _)
      (htarget.trans (scanAt_eq_walk hnode))
  | some (.file content modified) =>
    -- a file is looked for in a walk through the directory in which it stands
    have hslashes := slashes_of_resolve (resolve_eq_ok hresolve)
    obtain ⟨entries, hparent⟩ := exists_directory_of_file hroot hslashes hnode
    dsimp only at htarget
    rw [scanAt_eq_walk hparent] at htarget
    refine .read place.parent (.directory entries) (alone place ∘ .ofSightings) hasked
      (fun _ => List.filter_sublist.subset) (htarget.trans ?_)
    cases scanner.walk tree place.parent (.directory entries) <;> rfl

theorem comes (hroot : tree.root.isDirectory = true) (path : Path) : scanner.Comes tree path := by
  cases hresolve : scanner.resolve tree path with
  | error error =>
    obtain ⟨refusal, rfl⟩ := resolve_eq_error hresolve
    refine .refused refusal ?_ (by rw [target, hresolve]; rfl)
    rintro ⟨place, found, hplace, -⟩
    cases hresolve.symm.trans hplace
  | ok place =>
    cases hnode : tree.node? place with
    | error error =>
      refine .refused error ?_ (by rw [target_of_resolve hresolve, hnode])
      rintro ⟨other, found, hother, hfound⟩
      obtain rfl := Except.ok.inj (hresolve.symm.trans hother)
      cases hnode.symm.trans hfound
    | ok found => exact comes_of_node? hroot hresolve hnode

theorem target_error (hroot : tree.root.isDirectory = true) {path : Path} {error : DiscoveryError}
    (h : scanner.target tree path = .error error) :
    (∃ refusal, error = .place refusal) ∨ ∃ glob, error = .glob glob := by
  rcases scanner.comes hroot path with ⟨refusal, -, htarget⟩ | ⟨place, -, htarget⟩ |
    ⟨dir, node, take, -, -, htarget⟩
  · exact .inl ⟨refusal, Except.error.inj (h.symm.trans htarget)⟩
  · cases h.symm.trans htarget
  · cases hwalk : scanner.walk tree dir node with
    | ok sightings =>
      rw [hwalk] at htarget
      cases h.symm.trans htarget
    | error glob =>
      rw [hwalk] at htarget
      exact .inr ⟨glob, Except.error.inj (h.symm.trans htarget)⟩

theorem exists_target_iff (h : scanner.selection.Readable) (hroot : tree.root.isDirectory = true)
    (path : Path) : (∃ found, scanner.target tree path = .ok found) ↔ scanner.Answers tree path := by
  rcases scanner.comes hroot path with ⟨refusal, hasked, htarget⟩ | ⟨place, hasked, htarget⟩ |
    ⟨dir, node, take, hasked, -, htarget⟩
  · refine iff_of_false ?_ hasked
    rintro ⟨found, hfound⟩
    cases hfound.symm.trans htarget
  · exact iff_of_true ⟨_, htarget⟩ hasked
  · obtain ⟨sightings, hwalk⟩ := exists_walk h dir node
    rw [hwalk] at htarget
    exact iff_of_true ⟨_, htarget⟩ hasked

theorem offers_target (hroot : tree.root.isDirectory = true) {path : Path} {found : Found}
    (h : scanner.target tree path = .ok found) : ∀ file ∈ found.files, scanner.Offers tree file := by
  rcases scanner.comes hroot path with ⟨refusal, -, htarget⟩ | ⟨place, -, htarget⟩ |
    ⟨dir, node, take, -, htake, htarget⟩
  · cases h.symm.trans htarget
  · cases h.symm.trans htarget
    exact fun file hfile => absurd hfile List.not_mem_nil
  · obtain ⟨sightings, hsightings, rfl⟩ := Outcome.map_eq_ok.1 (htarget.symm.trans h)
    intro file hfile
    obtain ⟨sighting, hmem, hsource⟩ := List.mem_filterMap.1 (htake sightings hfile)
    rw [source?_eq_some_iff] at hsource
    subst hsource
    exact offers_walk (Outcome.mapError_eq_ok.1 hsightings) hmem

/-! ### Adding what is new -/

variable {files new : List SourceFile} {path : Path}

theorem addNew_append (files new more : List SourceFile) :
    addNew files (new ++ more) = addNew (addNew files new) more := List.foldl_append

theorem addNew_singleton (files : List SourceFile) (file : SourceFile) :
    addNew files [file] = if file.path ∈ files.map (·.path) then files else files ++ [file] := by
  have hany : files.any (·.path = file.path) ↔ file.path ∈ files.map (·.path) := by simp
  rw [addNew, List.foldl_cons, List.foldl_nil]
  exact if_congr hany rfl rfl

/-- What is added to some files is what is left of it by itself, but for the files that are there. -/
theorem addNew_eq (files new : List SourceFile) : addNew files new =
    files ++ (addNew [] new).filter fun file => file.path ∉ files.map (·.path) := by
  induction new using List.reverseRecOn with
  | nil => exact (List.append_nil files).symm
  | append_singleton new last ih =>
    have hnew : last.path ∈ (addNew files new).map (·.path) ↔
        last.path ∈ files.map (·.path) ∨ last.path ∈ (addNew [] new).map (·.path) := by
      have hown : last.path ∈ (addNew [] new).map (·.path) ↔ last.path ∈ new.map (·.path) :=
        includes_addNew.trans (or_iff_right List.not_mem_nil)
      rw [hown]
      exact includes_addNew
    rw [addNew_append, addNew_append, addNew_singleton, addNew_singleton]
    by_cases hown : last.path ∈ (addNew [] new).map (·.path)
    · rw [if_pos (hnew.2 (.inr hown)), if_pos hown, ih]
    · rw [if_neg hown, List.filter_append, ← List.append_assoc, ← ih]
      by_cases hfiles : last.path ∈ files.map (·.path)
      · rw [if_pos (hnew.2 (.inl hfiles)), List.filter_cons_of_neg (by simpa using hfiles)]
        exact (List.append_nil _).symm
      · rw [if_neg fun hin => (hnew.1 hin).elim hfiles hown,
          List.filter_cons_of_pos (by simpa using hfiles)]
        rfl

theorem nodup_addNew (files new : List SourceFile) (h : (files.map (·.path)).Nodup) :
    ((addNew files new).map (·.path)).Nodup := by
  induction new using List.reverseRecOn with
  | nil => exact h
  | append_singleton new last ih =>
    rw [addNew_append, addNew_singleton]
    split
    · exact ih
    · next hnew =>
      rw [List.map_append, List.map_singleton]
      exact ih.append (List.nodup_singleton _) (List.disjoint_singleton.2 hnew)

/-- Where the paths tell the files, nothing gets lost but repetitions. -/
theorem mem_addNew_iff (h : ∀ file ∈ new, scanner.Offers tree file) :
    file ∈ addNew [] new ↔ file ∈ new := by
  refine ⟨fun hin => (mem_addNew hin).resolve_left List.not_mem_nil, fun hin => ?_⟩
  have hincludes : Includes (addNew [] new) file.path :=
    includes_addNew.2 (.inr (List.mem_map.2 ⟨file, hin, rfl⟩))
  obtain ⟨other, hother, hpath⟩ := List.mem_map.1 hincludes
  have hnew := (mem_addNew hother).resolve_left List.not_mem_nil
  rwa [← (h file hin).unique (h other hnew) hpath]

/-! ### Several targets -/

/-- The source files that a target stands for, none if it cannot be looked up. -/
def standsFor (scanner : Scanner) (tree : FileTree) (path : Path) : List SourceFile :=
  match scanner.target tree path with
  | .ok found => found.files
  | .error _ => []

theorem targetsFrom_eq_ok_iff {paths : List Path} {result : List SourceFile} :
    (scanner.targetsFrom tree files paths).2 = .ok result ↔
      (∀ path ∈ paths, ∃ found, scanner.target tree path = .ok found) ∧
        result = addNew files (paths.flatMap (scanner.standsFor tree)) := by
  induction paths generalizing files with
  | nil =>
    rw [targetsFrom, Except.ok.injEq]
    exact ⟨fun h => ⟨fun _ hpath => absurd hpath List.not_mem_nil, h.symm⟩, fun h => h.2.symm⟩
  | cons path rest ih =>
    rw [targetsFrom, List.forall_mem_cons, List.flatMap_cons, standsFor, addNew_append]
    cases scanner.target tree path with
    | error error =>
      refine iff_of_false (fun h => by cases h) ?_
      rintro ⟨⟨⟨found, hfound⟩, -⟩, -⟩
      cases hfound
    | ok found => exact ih.trans ⟨fun h => ⟨⟨⟨found, rfl⟩, h.1⟩, h.2⟩, fun h => ⟨h.1.2, h.2⟩⟩

theorem exists_target_of_targetsFrom {paths : List Path} {error : DiscoveryError}
    (h : (scanner.targetsFrom tree files paths).2 = .error error) :
    ∃ path ∈ paths, scanner.target tree path = .error error := by
  induction paths generalizing files with
  | nil => cases h
  | cons path rest ih =>
    rw [targetsFrom] at h
    split at h
    · next failure hfails =>
      cases h
      exact ⟨path, List.mem_cons_self, hfails⟩
    · obtain ⟨other, hother, hfails⟩ := ih h
      exact ⟨other, List.mem_cons_of_mem path hother, hfails⟩

theorem targets_eq_ok_iff {paths : List Path} {result : List SourceFile} :
    (scanner.targets tree paths).2 = .ok result ↔
      (∀ path ∈ paths, ∃ found, scanner.target tree path = .ok found) ∧
        result = addNew [] (paths.flatMap (scanner.standsFor tree)) := targetsFrom_eq_ok_iff

theorem offers_standsFor (hroot : tree.root.isDirectory = true) (paths : List Path) :
    ∀ file ∈ paths.flatMap (scanner.standsFor tree), scanner.Offers tree file := by
  intro file hfile
  obtain ⟨path, -, hin⟩ := List.mem_flatMap.1 hfile
  unfold standsFor at hin
  split at hin
  · next found hfound => exact offers_target hroot hfound file hin
  · cases hin

theorem exists_targets_iff (h : scanner.selection.Readable) (hroot : tree.root.isDirectory = true)
    (paths : List Path) : (∃ result, (scanner.targets tree paths).2 = .ok result) ↔
      ∀ path ∈ paths, scanner.Answers tree path := by
  simp only [targets_eq_ok_iff, exists_and_left, exists_eq, and_true, exists_target_iff h hroot]

theorem targets_append_eq_ok_iff {xs ys : List Path} {all : List SourceFile} :
    (scanner.targets tree (xs ++ ys)).2 = .ok all ↔ ∃ left right,
      (scanner.targets tree xs).2 = .ok left ∧ (scanner.targets tree ys).2 = .ok right ∧
        all = left ++ right.filter fun file => file.path ∉ left.map (·.path) := by
  simp only [targets_eq_ok_iff, List.forall_mem_append, List.flatMap_append, addNew_append]
  constructor
  · rintro ⟨⟨hxs, hys⟩, rfl⟩
    exact ⟨_, _, ⟨hxs, rfl⟩, ⟨hys, rfl⟩, addNew_eq _ _⟩
  · rintro ⟨left, right, ⟨hxs, rfl⟩, ⟨hys, rfl⟩, rfl⟩
    exact ⟨⟨hxs, hys⟩, (addNew_eq _ _).symm⟩

theorem nodup_targets {paths : List Path} (h : (scanner.targets tree paths).2 = .ok files) :
    (files.map (·.path)).Nodup := by
  rw [(targets_eq_ok_iff.1 h).2]
  exact nodup_addNew [] _ List.nodup_nil

theorem offers_targets (hroot : tree.root.isDirectory = true) {paths : List Path}
    (h : (scanner.targets tree paths).2 = .ok files) : ∀ file ∈ files, scanner.Offers tree file := by
  obtain ⟨-, rfl⟩ := targets_eq_ok_iff.1 h
  exact fun file hfile =>
    offers_standsFor hroot paths file ((mem_addNew hfile).resolve_left List.not_mem_nil)

/-- In another order the targets stand for the same files in another order. -/
theorem targets_perm (hroot : tree.root.isDirectory = true) {paths others : List Path}
    (h : (scanner.targets tree paths).2 = .ok files) (hperm : others.Perm paths) :
    ∃ found, (scanner.targets tree others).2 = .ok found ∧ found.Perm files := by
  have hnodup := nodup_targets h
  obtain ⟨hall, rfl⟩ := targets_eq_ok_iff.1 h
  refine ⟨_, targets_eq_ok_iff.2 ⟨fun path hpath => hall path (hperm.subset hpath), rfl⟩, ?_⟩
  refine (List.perm_ext_iff_of_nodup
    (nodup_addNew [] _ List.nodup_nil).of_map hnodup.of_map).2 fun file => ?_
  rw [mem_addNew_iff (offers_standsFor hroot others), mem_addNew_iff (offers_standsFor hroot paths)]
  exact (hperm.flatMap_right _).mem_iff

theorem Misses.target (h : scanner.Misses tree path place) :
    scanner.target tree path = .ok ⟨[], [.warn ("File not found: " ++ place.text)]⟩ := by
  rw [target_of_resolve h.resolved]
  have hdirectory := h.directory
  have hfile := h.file
  unfold FileTree.hasDirectory at hdirectory
  unfold FileTree.hasFile at hfile
  match hnode : tree.node? place with
  | .error error =>
    rw [hnode] at hfile
    cases hfile
  | .ok none => rfl
  | .ok (some (.link other)) => rfl
  | .ok (some (.directory entries)) =>
    rw [hnode] at hdirectory
    cases hdirectory
  | .ok (some (.file content modified)) =>
    rw [hnode] at hfile
    cases hfile

/-- A target at whose place nothing is found adds nothing to those around it. -/
theorem Misses.targetsFrom (h : scanner.Misses tree path place) (front back : List Path) :
    (scanner.targetsFrom tree files (front ++ path :: back)).2 =
      (scanner.targetsFrom tree files (front ++ back)).2 := by
  induction front generalizing files with
  | nil =>
    rw [List.nil_append, Scanner.targetsFrom, h.target]
    rfl
  | cons first rest ih =>
    rw [List.cons_append, List.cons_append, Scanner.targetsFrom, Scanner.targetsFrom]
    cases scanner.target tree first with
    | error error => rfl
    | ok found => exact ih

/-- What some targets stand for, in any tree. They come to an end exactly if the tree can be asked for
each of them, for which without links no NUL may stand in it and no name may be too long, and what keeps
them from it is never that a target is missing or no directory. What more targets add are the files that
stand at other paths, every path is found once and all files are to be analysed, in another order the
targets stand for the same files in another order, and a target that is missing is said and left out. -/
theorem targets_laws (hroot : tree.root.isDirectory = true) (xs ys : List Path) :
    (∀ error, (scanner.targets tree xs).2 = .error error →
      (∃ refusal, error = .place refusal) ∨ ∃ glob, error = .glob glob) ∧
    (scanner.selection.Readable →
      ((∃ files, (scanner.targets tree xs).2 = .ok files) ↔ ∀ path ∈ xs, scanner.Answers tree path)) ∧
    (tree.root.Plain → ∀ path, scanner.Answers tree path ↔
      FileTree.refusal? (scanner.root.join path) ≠ some .nul ∧
        tree.Fits (FileTree.withoutDots (tree.absolute (scanner.root.join path)).names)) ∧
    (∀ all, (scanner.targets tree (xs ++ ys)).2 = .ok all ↔ ∃ left right,
      (scanner.targets tree xs).2 = .ok left ∧ (scanner.targets tree ys).2 = .ok right ∧
        all = left ++ right.filter fun file => file.path ∉ left.map (·.path)) ∧
    (∀ files, (scanner.targets tree xs).2 = .ok files → (files.map (·.path)).Nodup ∧
      (∀ file ∈ files, scanner.selection.admits file = .ok true) ∧
      ∀ zs, zs.Perm xs → ∃ others, (scanner.targets tree zs).2 = .ok others ∧ others.Perm files) ∧
    ∀ front path back place, xs = front ++ path :: back → scanner.Misses tree path place →
      scanner.target tree path = .ok ⟨[], [.warn ("File not found: " ++ place.text)]⟩ ∧
        (scanner.targets tree xs).2 = (scanner.targets tree (front ++ back)).2 := by
  refine ⟨fun error h => ?_, fun h => exists_targets_iff h hroot xs, answers_iff_of_plain,
    fun all => targets_append_eq_ok_iff, fun files h => ⟨nodup_targets h,
      fun file hfile => (offers_targets hroot h file hfile).admitted,
      fun zs hperm => targets_perm hroot h hperm⟩, ?_⟩
  · obtain ⟨path, -, hfails⟩ := exists_target_of_targetsFrom h
    exact target_error hroot hfails
  · rintro front path back place rfl h
    exact ⟨h.target, h.targetsFrom front back⟩

theorem answers_project {entries : List (String × Node)} (hplain : (Node.directory entries).Plain)
    {excludes names : List String} (hpath : FileTree.refusal? ⟨1, "p" :: names⟩ = none)
    (hnames : ∀ name ∈ names, name ≠ "..")
    (htarget : (projectScanner excludes).root.join path = ⟨1, "p" :: names⟩) :
    (projectScanner excludes).resolve (projectTree entries) path = .ok ⟨1, "p" :: names⟩ ∧
      (projectTree entries).node? ⟨1, "p" :: names⟩ =
        ((Node.directory entries).seek names).mapError (⟨·, ⟨1, "p" :: names⟩⟩) := by
  have hroot : (projectTree entries).root.Plain :=
    ⟨List.nodup_singleton _, ⟨by decide, by decide⟩, hplain, trivial⟩
  have hdots : FileTree.withoutDots ("p" :: names) = "p" :: names :=
    FileTree.withoutDots_append ["p"] hnames
  constructor
  · have hresolve := FileTree.resolve_of_straight (by rw [hpath]; exact nofun)
      (FileTree.linkless_of_plain hroot ⟨1, "p" :: names⟩).way
    rw [FileTree.absolute_rooted, hdots] at hresolve
    unfold Scanner.resolve
    rw [htarget, hresolve]
    rfl
  · have hstands : (projectTree entries).Stands ⟨1, ["p"]⟩ (.directory entries) := ⟨rfl, by decide, rfl⟩
    exact hstands.node?_under hplain hnames hpath

/-- A built project with a target that is missing, the whole project and a file in it. -/
theorem targets_laws_built :
    (projectTree builtEntries).root.isDirectory = true ∧
    ∃ left right, ((projectScanner ["**/build/**"]).targets (projectTree builtEntries)
        [⟨0, ["C.kt"]⟩, ⟨1, ["p"]⟩]).2 = .ok left ∧
      ((projectScanner ["**/build/**"]).targets (projectTree builtEntries) [⟨0, ["B.kt"]⟩]).2 =
        .ok right ∧
      ((projectScanner ["**/build/**"]).targets (projectTree builtEntries)
        [⟨0, ["C.kt"]⟩, ⟨1, ["p"]⟩, ⟨0, ["B.kt"]⟩]).2 =
          .ok (left ++ right.filter fun file => file.path ∉ left.map (·.path)) ∧
      ((projectScanner ["**/build/**"]).targets (projectTree builtEntries) [⟨1, ["p"]⟩]).2 =
        .ok left := by
  have hglobs : (projectScanner ["**/build/**"]).selection.Readable :=
    Selection.readable_of_ordinary (by decide)
  obtain ⟨hmissing, hnone⟩ := @answers_project ⟨0, ["C.kt"]⟩ _ plain_builtEntries ["**/build/**"] ["C.kt"]
    (by decide) (by decide) rfl
  obtain ⟨hproject, hall⟩ := @answers_project ⟨1, ["p"]⟩ _ plain_builtEntries ["**/build/**"] []
    (by decide) (by decide) rfl
  obtain ⟨hfile, hsome⟩ := @answers_project ⟨0, ["B.kt"]⟩ _ plain_builtEntries ["**/build/**"] ["B.kt"]
    (by decide) (by decide) rfl
  obtain ⟨-, hends, -, happend, -, hmissed⟩ := @targets_laws (projectScanner ["**/build/**"])
    (projectTree builtEntries) rfl [⟨0, ["C.kt"]⟩, ⟨1, ["p"]⟩] [⟨0, ["B.kt"]⟩]
  obtain ⟨-, hends', -⟩ := @targets_laws (projectScanner ["**/build/**"])
    (projectTree builtEntries) rfl [⟨0, ["B.kt"]⟩] []
  obtain ⟨left, hleft⟩ := (hends hglobs).2 <| List.forall_mem_cons.2
    ⟨⟨_, _, hmissing, hnone⟩, List.forall_mem_singleton.2 ⟨_, _, hproject, hall⟩⟩
  obtain ⟨right, hright⟩ := (hends' hglobs).2 (List.forall_mem_singleton.2 ⟨_, _, hfile, hsome⟩)
  refine ⟨rfl, left, right, hleft, hright, (happend _).2 ⟨left, right, hleft, hright, rfl⟩, ?_⟩
  have hmiss : (projectScanner ["**/build/**"]).Misses (projectTree builtEntries) ⟨0, ["C.kt"]⟩
      ⟨1, ["p", "C.kt"]⟩ :=
    ⟨hmissing, by rw [FileTree.hasDirectory, hnone]; rfl, by rw [FileTree.hasFile, hnone]; rfl⟩
  exact (hmissed [] ⟨0, ["C.kt"]⟩ [⟨1, ["p"]⟩] _ rfl hmiss).2.symm.trans hleft

end Discovery.Scanner
end KotlinAudit
