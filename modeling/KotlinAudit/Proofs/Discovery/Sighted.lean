import KotlinAudit.Discovery.Scan
import KotlinAudit.Proofs.FileTree.Proper
import KotlinAudit.Proofs.Outcome

/-! What a scanner comes across. Every source file is the description of a proper path below the place
that was scanned, so that the relative path of a file tells which file it is. -/
namespace KotlinAudit.Discovery

open KotlinAudit.Path (ProperName)

namespace Scanner

variable {scanner : Scanner} {tree : FileTree} {path : Path} {sightings : List Sighting}
  {file : SourceFile}

/-- A directory that is there is walked. -/
theorem scanAt_of_node? {entries : List (String × Node)}
    (h : tree.node? path = .ok (some (.directory entries))) :
    scanner.scanAt tree path = match scanner.walk tree path (.directory entries) with
      | .ok sightings => .ok (.ofSightings sightings)
      | .error error => .error (.glob error) := by
  rw [scanAt, h]
  rfl

/-- A source file is described at a proper path. -/
def Sees (scanner : Scanner) (tree : FileTree) (file : SourceFile) : Prop :=
  ∃ path : Path, path.Proper ∧ path.slashes = 1 ∧ scanner.selection.isSource path.extension ∧
    scanner.describe tree path = .source file

/-- All source files among some sightings are seen. -/
def AllSeen (scanner : Scanner) (tree : FileTree) (sightings : Sightings) : Prop :=
  ∀ found, sightings = .ok found → ∀ file, .source file ∈ found → scanner.Sees tree file

theorem allSeen_sightFile (hpath : path.Proper) (hslashes : path.slashes = 1) :
    scanner.AllSeen tree (scanner.sightFile tree path) := by
  intro found h file hfile
  unfold sightFile at h
  split at h
  · cases h
    cases hfile
  · next hsource =>
    obtain ⟨excluded, -, hfound⟩ := Outcome.bind_eq_ok.1 h
    cases excluded with
    | true =>
      cases hfound
      cases hfile
    | false =>
      cases hfound
      exact ⟨path, hpath, hslashes, by simpa using hsource, (List.mem_singleton.1 hfile).symm⟩

/-- What is sighted in a directory is sighted in one of its parts. -/
theorem exists_part_of_together {parts : List Part}
    (h : scanner.together path parts = .ok sightings) {sighting : Sighting}
    (hmem : sighting ∈ sightings) :
    ∃ part ∈ parts, ∃ own, part.sightings = .ok own ∧ sighting ∈ own := by
  unfold together at h
  generalize hsplit : (parts.mergeSort Part.le).partition (·.isDirectory) = split at h
  obtain ⟨directories, files⟩ := split
  rw [List.partition_eq_filter_filter, Prod.mk.injEq] at hsplit
  obtain ⟨rfl, rfl⟩ := hsplit
  obtain ⟨kept, hkept, hrest⟩ := Outcome.bind_eq_ok.1 h
  obtain ⟨found, hfound, hflat⟩ := Outcome.bind_eq_ok.1 hrest
  cases hflat
  obtain ⟨own, hown, hin⟩ := List.mem_flatten.1 hmem
  obtain ⟨part, hpart, hsightings⟩ := Outcome.exists_item_of_mapM hfound own hown
  refine ⟨part, ?_, own, hsightings, hin⟩
  rcases List.mem_append.1 hpart with hfile | hdirectory
  · exact List.mem_mergeSort.1 (List.mem_filter.1 hfile).1
  · exact List.mem_mergeSort.1
      (List.mem_filter.1 ((Outcome.sublist_of_filterM hkept).subset hdirectory)).1

theorem allSeen_together {parts : List Part}
    (h : ∀ part ∈ parts, scanner.AllSeen tree part.sightings) :
    scanner.AllSeen tree (scanner.together path parts) := by
  intro found hfound file hfile
  obtain ⟨part, hpart, own, hown, hin⟩ := exists_part_of_together hfound hfile
  exact h part hpart own hown file hin

theorem allSeen_nothing : scanner.AllSeen tree (.ok []) := by
  intro found h file hfile
  cases h
  cases hfile

mutual

theorem allSeen_walk {path : Path} (hpath : path.Proper) (hslashes : path.slashes = 1) {node : Node}
    (hnode : node.Proper) : scanner.AllSeen tree (scanner.walk tree path node) := by
  match node with
  | .file content modified => exact allSeen_nothing
  | .link target => exact allSeen_nothing
  | .directory entries => exact allSeen_together (allSeen_walkEntries hpath hslashes hnode)

theorem allSeen_walkEntries {path : Path} (hpath : path.Proper) (hslashes : path.slashes = 1)
    {entries : List (String × Node)} (hentries : Node.ProperEntries entries) :
    ∀ part ∈ scanner.walkEntries tree path entries, scanner.AllSeen tree part.sightings := by
  match entries with
  | [] => exact fun part hpart => absurd hpart List.not_mem_nil
  | (name, node) :: rest =>
    have hchild := hpath.child hentries.1
    have hnode := hentries.2.1
    have hrest := allSeen_walkEntries hpath hslashes hentries.2.2
    match node with
    | .file content modified =>
      exact List.forall_mem_cons.2 ⟨allSeen_sightFile hchild hslashes, hrest⟩
    | .directory entries =>
      exact List.forall_mem_cons.2 ⟨allSeen_walk hchild hslashes hnode, hrest⟩
    | .link target =>
      refine List.forall_mem_cons.2 ⟨?_, hrest⟩
      dsimp only
      split
      · exact allSeen_nothing
      · exact allSeen_sightFile hchild hslashes

end

/-! ### Scans and targets -/

/-- What has been scanned is a directory. -/
theorem exists_directory_of_scanAt {found : Found} (h : scanner.scanAt tree path = .ok found) :
    ∃ entries, tree.node path = .ok (.directory entries) := by
  obtain ⟨node, hnode, hrest⟩ := Outcome.bind_eq_ok.1 h
  cases hstands : tree.node path with
  | error error =>
    rw [FileTree.node?, hstands] at hnode
    split at hnode
    · next heq => cases heq
    · split at hnode
      · cases hnode
      · cases hnode
        cases hrest
  | ok node =>
    rw [FileTree.node?, hstands] at hnode
    cases hnode
    cases node with
    | file content modified => cases hrest
    | link target => cases hrest
    | directory entries => exact ⟨entries, rfl⟩

theorem sees_scanAt (htree : tree.Proper) (hpath : path.Proper) (hslashes : path.slashes = 1)
    {found : Found} (h : scanner.scanAt tree path = .ok found) :
    ∀ file ∈ found.files, scanner.Sees tree file := by
  obtain ⟨entries, hstands⟩ := exists_directory_of_scanAt h
  have hnode : tree.node? path = .ok (some (.directory entries)) := by
    rw [FileTree.node?, hstands]
  rw [scanAt_of_node? hnode] at h
  cases hwalk : scanner.walk tree path (.directory entries) with
  | error error =>
    rw [hwalk] at h
    cases h
  | ok sightings =>
    rw [hwalk] at h
    cases h
    intro file hfile
    obtain ⟨sighting, hmem, hsource⟩ := List.mem_filterMap.1 hfile
    cases sighting with
    | skipped path error => cases hsource
    | source other =>
      cases hsource
      exact allSeen_walk hpath hslashes (htree.node hstands) _ hwalk _ hmem

theorem resolve_eq_ok {resolved : Path} (h : scanner.resolve tree path = .ok resolved) :
    tree.resolve (scanner.root.join path) = .ok resolved := by
  unfold resolve at h
  cases hresolve : tree.resolve (scanner.root.join path) with
  | error error =>
    rw [hresolve] at h
    cases h
  | ok found =>
    rw [hresolve] at h
    cases h
    rfl

theorem sees_target (htree : tree.Proper) (hroot : scanner.root.Proper) (hpath : path.Proper)
    {found : Found} (h : scanner.target tree path = .ok found) :
    ∀ file ∈ found.files, scanner.Sees tree file := by
  obtain ⟨resolved, hresolved, hrest⟩ := Outcome.bind_eq_ok.1 h
  obtain ⟨hproper, hslashes⟩ := htree.resolve (hroot.join hpath) (resolve_eq_ok hresolved)
  obtain ⟨isDirectory, -, hrest⟩ := Outcome.bind_eq_ok.1 hrest
  cases isDirectory with
  | true => exact sees_scanAt htree hproper hslashes hrest
  | false =>
    obtain ⟨isFile, -, hrest⟩ := Outcome.bind_eq_ok.1 hrest
    cases isFile with
    | false =>
      cases hrest
      exact fun file hfile => absurd hfile List.not_mem_nil
    | true =>
      obtain ⟨around, haround, hfound⟩ := Outcome.bind_eq_ok.1 hrest
      cases hfound
      intro file hfile
      exact sees_scanAt htree hproper.parent hslashes haround file (List.mem_filter.1 hfile).1

theorem mem_addNew {files new : List SourceFile} (h : file ∈ addNew files new) :
    file ∈ files ∨ file ∈ new := by
  induction new generalizing files with
  | nil => exact .inl h
  | cons next rest ih =>
    rw [addNew, List.foldl_cons, ← addNew] at h
    rcases ih h with hfiles | hrest
    · split at hfiles
      · exact .inl hfiles
      · rcases List.mem_append.1 hfiles with hold | hnew
        · exact .inl hold
        · exact .inr (List.mem_singleton.1 hnew ▸ List.mem_cons_self)
    · exact .inr (List.mem_cons_of_mem next hrest)

theorem sees_targetsFrom (htree : tree.Proper) (hroot : scanner.root.Proper) {paths : List Path}
    (hpaths : ∀ path ∈ paths, path.Proper) {before files : List SourceFile}
    (hbefore : ∀ file ∈ before, scanner.Sees tree file)
    (h : (scanner.targetsFrom tree before paths).2 = .ok files) :
    ∀ file ∈ files, scanner.Sees tree file := by
  induction paths generalizing before with
  | nil =>
    cases h
    exact hbefore
  | cons path rest ih =>
    rw [List.forall_mem_cons] at hpaths
    unfold targetsFrom at h
    split at h
    · cases h
    · next found hfound =>
      refine ih hpaths.2 ?_ h
      intro file hfile
      rcases mem_addNew hfile with hold | hnew
      · exact hbefore file hold
      · exact sees_target htree hroot hpaths.1 hfound file hnew

/-! ### Files by their relative paths -/

theorem proper_relativeTo {base rest : Path} (hpath : path.Proper)
    (h : base.relativeTo? path = some rest) : rest.Proper ∧ rest.slashes = 0 ∧
      path = ⟨base.slashes, base.names ++ rest.names⟩ := by
  unfold Path.relativeTo? at h
  split at h
  · next hbelow =>
    cases h
    simp only [Bool.and_eq_true, decide_eq_true_eq, List.isPrefixOf_iff_prefix] at hbelow
    obtain ⟨hslashes, names, hnames⟩ := hbelow
    refine ⟨fun name hname => hpath name (List.mem_of_mem_drop hname), rfl, ?_⟩
    obtain ⟨slashes, all⟩ := path
    simp only at hslashes hnames ⊢
    subst hslashes hnames
    simp
  · cases h

/-- The relative path tells a file from all others. -/
theorem relative_injective {other : Path} (hpath : path.Proper) (hother : other.Proper)
    (hslashes : path.slashes = 1) (hothers : other.slashes = 1)
    (h : scanner.relative path = scanner.relative other) : path = other := by
  unfold relative at h
  cases hfirst : scanner.root.relativeTo? path with
  | none =>
    cases hsecond : scanner.root.relativeTo? other with
    | none =>
      rw [hfirst, hsecond] at h
      exact Path.text_injective hpath hother (by omega) (by omega) h
    | some rest =>
      rw [hfirst, hsecond] at h
      obtain ⟨hproper, hzero, -⟩ := proper_relativeTo hother hsecond
      have heq := Path.text_injective hpath hproper (by omega) (by omega) h
      rw [heq, hzero] at hslashes
      cases hslashes
  | some rest =>
    obtain ⟨hproper, hzero, hpath⟩ := proper_relativeTo hpath hfirst
    cases hsecond : scanner.root.relativeTo? other with
    | none =>
      rw [hfirst, hsecond] at h
      have heq := Path.text_injective hproper hother (by omega) (by omega) h
      rw [← heq, hzero] at hothers
      cases hothers
    | some others =>
      obtain ⟨hproper', hzero', hother⟩ := proper_relativeTo hother hsecond
      rw [hfirst, hsecond] at h
      have heq : rest = others := Path.text_injective hproper hproper' (by omega) (by omega) h
      rw [hpath, hother, heq]

theorem relative_of_describe (h : scanner.describe tree path = .source file) :
    file.path = path ∧ file.relative = scanner.relative path := by
  unfold describe at h
  split at h
  · cases h
  · cases h
    exact ⟨rfl, rfl⟩
  · cases h
    exact ⟨rfl, rfl⟩

/-- Two source files with the same relative path are described at the same path. -/
theorem exists_path_of_sees {after : FileTree} {other : SourceFile} (h : scanner.Sees tree file)
    (hother : scanner.Sees after other) (hrelative : file.relative = other.relative) :
    ∃ path : Path, scanner.selection.isSource path.extension ∧
      scanner.describe tree path = .source file ∧ scanner.describe after path = .source other := by
  obtain ⟨path, hproper, hslashes, hsource, hfile⟩ := h
  obtain ⟨place, hproper', hslashes', -, hfile'⟩ := hother
  have heq : path = place := by
    apply relative_injective hproper hproper' hslashes hslashes'
    rw [← (relative_of_describe hfile).2, hrelative, (relative_of_describe hfile').2]
  subst heq
  exact ⟨path, hsource, hfile, hfile'⟩

end Scanner
end KotlinAudit.Discovery
