import KotlinAudit.Proofs.Audit.Artefacts

/-! What becomes of the artefacts in the file tree. If they are different files, each of them is written
if it can be, whatever becomes of the others, and nothing else is touched. -/
namespace KotlinAudit

open FileTree (Edit maxLinks refusal?)

namespace FileTree

variable {tree made : FileTree} {dir path : Path} {names : List String} {name : String}
  {old : Option Content}

/-- Writing to a path is not refused. -/
def Writable (tree : FileTree) (path : Path) : Prop :=
  ∃ names old, tree.target path = .ok (names, old)

/-- The outcome of writing to a path. -/
def admission (tree : FileTree) (path : Path) : Except FileError Unit :=
  match tree.target path with
  | .error cause => .error ⟨cause, path⟩
  | .ok _ => .ok ()

theorem not_writable_iff : ¬tree.Writable path ↔ ∃ cause, tree.target path = .error cause := by
  unfold Writable
  cases tree.target path with
  | error cause => simp
  | ok found => exact ⟨fun h => absurd ⟨found.1, found.2, rfl⟩ h, nofun⟩

theorem admission_eq_ok : tree.admission path = .ok () ↔ tree.Writable path := by
  unfold admission Writable
  cases tree.target path with
  | error cause => simp
  | ok found => exact ⟨fun _ => ⟨found.1, found.2, rfl⟩, fun _ => rfl⟩

theorem here_editAll (tree : FileTree) (edits : List Edit) :
    (tree.editAll edits).here = tree.here := by
  induction edits generalizing tree with
  | nil => rfl
  | cons edit rest ih => exact (ih (tree.edited edit)).trans (tree.here_edited edit)

theorem deliver_of_made (h : tree.makeDirectory dir = (made, .ok ())) (edit : Edit) :
    tree.deliver dir edit = (made.edited edit, made.admission edit.path) := by
  rw [edited, admission, deliver, h]
  dsimp only
  rw [update_eq]
  cases made.target edit.path <;> rfl

theorem deliver_of_failed {error : FileError} (h : tree.makeDirectory dir = (made, .error error))
    (edit : Edit) : tree.deliver dir edit = (made, .error error) := by
  rw [deliver, h]

theorem nul_notMem_of_child (hdir : dir.isAbsolute)
    (h : '\x00' ∉ (dir.child name).text.toList) : '\x00' ∉ dir.text.toList := by
  obtain ⟨rest, hrest⟩ := exists_intercalate_append dir.names [name]
  have hchild : (dir.child name).isAbsolute := hdir
  rw [Path.text_of_isAbsolute hchild, show (dir.child name).names = dir.names ++ [name] from rfl,
    hrest] at h
  rw [Path.text_of_isAbsolute hdir]
  simp only [String.toList_append, List.mem_append, not_or] at h ⊢
  exact ⟨h.1, h.2.1⟩

/-- Where the system itself decides what is refused, no path has a NUL. -/
theorem nul_notMem_of_target (hhere : tree.here.isAbsolute)
    (h : ∀ cause, tree.target (dir.child name) = .error cause → cause.OfSystem) :
    '\x00' ∉ (tree.absolute dir).text.toList := by
  have hchild : '\x00' ∉ ((tree.absolute dir).child name).text.toList := by
    intro hnul
    have htarget : tree.target (dir.child name) = .error .nul := by
      rw [target, absolute_child, refusal?, if_pos (by simpa using hnul)]
    exact (h .nul htarget).2 rfl
  exact nul_notMem_of_child (isAbsolute_absolute hhere dir) hchild

/-- What can be written in a directory is written in one that is there. -/
theorem leads_of_target (hhere : tree.here.isAbsolute)
    (h : tree.target (dir.child name) = .ok (names, old)) :
    tree.Leads (tree.absolute dir).names := by
  unfold target at h
  rw [absolute_child, placeToWrite_eq] at h
  split at h
  · cases h
  · cases hentry : tree.entryOf ((tree.absolute dir).child name) with
    | error cause =>
      rw [hentry] at h
      cases h
    | ok entry =>
      obtain ⟨last, place, entries⟩ := entry
      obtain ⟨-, -, hdir, hentries, -⟩ := entryOf_eq_ok.1 hentry
      have hparent : ((tree.absolute dir).child name).parent = tree.absolute dir :=
        Workspace.parent_child _ _
      rw [hparent] at hdir
      have hnode : tree.node (tree.absolute dir) = .ok (.directory entries) := by
        rw [node_of_find hdir, hentries]
      have hsame : tree.absolute (tree.absolute dir) = tree.absolute dir :=
        absolute_of_isAbsolute (isAbsolute_absolute hhere dir)
      have hnames := node_names hhere hnode
      rw [hsame] at hnames
      exact ⟨entries, hnames⟩

/-- A name in a directory stands in the place of the directory. -/
theorem placeOf_child (h : tree.placeOf (dir.child name) = .ok names) :
    ∃ place, tree.find (tree.absolute dir) = .ok place ∧ names = place ++ [name] := by
  rw [placeOf_entryOf, absolute_child] at h
  split at h
  · cases h
  · obtain ⟨⟨last, place, entries⟩, hentry, rfl⟩ := Outcome.map_eq_ok.1 h
    obtain ⟨hlast, -, hdir, -, -⟩ := entryOf_eq_ok.1 hentry
    rw [show ((tree.absolute dir).child name).parent = tree.absolute dir from
      Workspace.parent_child _ _] at hdir
    have hname : ((tree.absolute dir).child name).names.getLast? = some name :=
      List.getLast?_concat
    obtain rfl := Option.some.inj (hname.symm.trans hlast)
    exact ⟨place, hdir, rfl⟩

theorem exists_find_of_directory {entries : List (String × Node)} (hhere : tree.here.isAbsolute)
    (h : tree.node dir = .ok (.directory entries)) :
    ∃ place, tree.find (tree.absolute dir) = .ok place ∧
      tree.root.at? place = some (.directory entries) := by
  have hsame : tree.absolute (tree.absolute dir) = tree.absolute dir :=
    absolute_of_isAbsolute (isAbsolute_absolute hhere dir)
  obtain ⟨hpath, place, hplace, hentries⟩ := exists_place_of_node h
  refine ⟨place.reverse, find_of_place ?_ ?_, hentries⟩
  · rw [hsame]
    exact hpath
  · rw [hsame]
    exact hplace

/-- What is written to a name in a directory that is no link. -/
theorem target_child {entries : List (String × Node)} {place : List String}
    (hdir : tree.find (tree.absolute dir) = .ok place)
    (hentries : tree.root.at? place = some (.directory entries)) (hname : tree.Admits dir name)
    (hlink : ∀ link, entries.lookup name ≠ some (.link link)) :
    tree.target (dir.child name) =
      if (entries.lookup name).any Node.isDirectory then .error .isDirectory
      else .ok (place ++ [name], held entries name) := by
  have hentry : tree.entryOf ((tree.absolute dir).child name) = .ok (name, place, entries) := by
    refine entryOf_eq_ok.2 ⟨List.getLast?_concat, hname.notUp, ?_, hentries, hname.size⟩
    rw [show ((tree.absolute dir).child name).parent = tree.absolute dir from
      Workspace.parent_child _ _]
    exact hdir
  unfold target
  rw [hname.path, absolute_child]
  dsimp only
  rw [placeToWrite_eq, hentry, held]
  dsimp only
  cases hlookup : entries.lookup name with
  | none => rfl
  | some node =>
    cases node with
    | file content modified => rfl
    | directory entries => rfl
    | link link => exact absurd hlookup (hlink link)

/-- Where a name is no link, what is written to it stands under it. -/
theorem placeOf_of_target
    (hlink : ∀ place link, tree.placeOf path = .ok place → tree.root.at? place ≠ some (.link link))
    (h : tree.target path = .ok (names, old)) : tree.placeOf path = .ok names := by
  unfold target at h
  rw [placeToWrite_eq] at h
  have hplace := placeOf_entryOf tree path
  cases hpath : refusal? (tree.absolute path) with
  | some cause =>
    rw [hpath] at h
    cases h
  | none =>
    rw [hpath] at h hplace
    cases hentry : tree.entryOf (tree.absolute path) with
    | error cause =>
      rw [hentry] at h
      cases h
    | ok entry =>
      obtain ⟨last, place, entries⟩ := entry
      obtain ⟨-, -, -, hentries, -⟩ := entryOf_eq_ok.1 hentry
      rw [hentry] at h hplace
      have hnode : ∀ link, entries.lookup last ≠ some (.link link) := by
        intro link
        rw [← Node.at?_append_singleton hentries]
        exact hlink _ link hplace
      dsimp only at h
      split at h
      · cases h
        exact hplace
      · cases h
        exact hplace
      · cases h
      · next hlookup _ => exact absurd hlookup (hnode _)
      · next hlookup _ => exact absurd hlookup (hnode _)

/-- In a directory that cannot be made nothing is written. -/
theorem not_writable_of_failed {error : FileError} (hhere : tree.here.isAbsolute)
    (h : tree.makeDirectory dir = (tree, .error error)) (name : String) :
    ¬tree.Writable (dir.child name) := by
  rintro ⟨names, old, htarget⟩
  rw [makeDirectory, makeAll_of_leads (leads_of_target hhere htarget)] at h
  cases h

/-- A path that leads to the same file in two trees is written in both of them or in none. -/
theorem SameTarget.writable_iff {before after : FileTree} (h : before.SameTarget after path) :
    after.Writable path ↔ before.Writable path :=
  ⟨fun ⟨names, old, hfound⟩ => ⟨names, old, h.of_after hfound⟩,
    fun ⟨names, old, hfound⟩ => ⟨names, old, h.found names old hfound⟩⟩

theorem SameTarget.ofSystem {before after : FileTree} (h : before.SameTarget after path)
    (hbefore : ∀ cause, before.target path = .error cause → cause.OfSystem) {cause : FileCause}
    (hcause : after.target path = .error cause) : cause.OfSystem := by
  cases htarget : before.target path with
  | ok found =>
    obtain ⟨names, old⟩ := found
    cases (h.found names old htarget).symm.trans hcause
  | error other =>
    rcases h.refused other htarget with hsame | hfile
    · obtain rfl := Except.error.inj (hsame.symm.trans hcause)
      exact hbefore other htarget
    · obtain rfl := Except.error.inj (hfile.symm.trans hcause)
      decide

end FileTree

/-- The edits of all artefacts in their order. -/
def Documents.edits (documents : Documents) (store : Store) (clock : Clock) : List Edit :=
  Artefact.all.map (documents.edit store clock)

/-- The artefacts that are written earlier. -/
def Artefact.before : Artefact → List Artefact
  | report => []
  | history => [report]
  | baseline => [report, history]

/-- The tree when it is an artefact's turn. -/
def Documents.turn (documents : Documents) (store : Store) (clock : Clock) (tree : FileTree)
    (artefact : Artefact) : FileTree :=
  tree.editAll (artefact.before.map (documents.edit store clock))

namespace Store

variable {store : Store} {clock : Clock} {documents : Documents} {tree made after : FileTree}

/-- The artefacts of a store are different files: no two of them are written to the same place, and
none of them lies on the way to another one. -/
structure Distinct (store : Store) (tree : FileTree) : Prop where
  apart : ∀ artefact other, artefact ≠ other →
    tree.Apart (store.pathOf artefact) (store.pathOf other)
  aside : ∀ artefact other place names old, artefact ≠ other →
    tree.placeOf (store.pathOf artefact) = .ok place →
    tree.target (store.pathOf other) = .ok (names, old) → ¬place <+: names

/-- The places of all artefacts that can be written hold their documents, and every other place holds
what it has held before. -/
structure Delivered (store : Store) (clock : Clock) (documents : Documents)
    (before after : FileTree) : Prop where
  written : ∀ artefact names old, before.target (store.pathOf artefact) = .ok (names, old) →
    after.root.at? names =
      some (.file (documents.content artefact old) ((artefact.clock clock).time * 1000000))
  refused : ∀ artefact place, ¬before.Writable (store.pathOf artefact) →
    before.placeOf (store.pathOf artefact) = .ok place →
    after.root.at? place = before.root.at? place
  other : ∀ place, (∀ artefact names old, before.target (store.pathOf artefact) = .ok (names, old) →
    ¬place <+: names) → after.root.at? place = before.root.at? place

theorem name_injective {artefact other : Artefact} (h : artefact.name = other.name) :
    artefact = other := by
  revert h
  cases artefact <;> cases other <;> decide

/-- Artefacts that are no links are different files. -/
theorem distinct_of_unlinked
    (h : ∀ artefact place link, tree.placeOf (store.pathOf artefact) = .ok place →
      tree.root.at? place ≠ some (.link link)) : store.Distinct tree := by
  have haside : ∀ artefact other place names old, artefact ≠ other →
      tree.placeOf (store.pathOf artefact) = .ok place →
      tree.target (store.pathOf other) = .ok (names, old) → ¬place <+: names := by
    intro artefact other place names old hne hplace htarget hbegins
    have hnames := FileTree.placeOf_of_target (h other) htarget
    obtain ⟨dir, hdir, rfl⟩ := FileTree.placeOf_child hplace
    obtain ⟨dir', hdir', rfl⟩ := FileTree.placeOf_child hnames
    obtain rfl := Except.ok.inj (hdir.symm.trans hdir')
    have hlength : (dir ++ [artefact.name]).length = (dir ++ [other.name]).length := by
      rw [List.length_append, List.length_append, List.length_singleton, List.length_singleton]
    have hlast := List.append_cancel_left (hbegins.eq_of_length hlength)
    exact hne (name_injective (List.cons.inj hlast).1)
  refine ⟨fun artefact other hne names old old' htarget hsame => ?_, haside⟩
  exact haside artefact other names names old' hne (FileTree.placeOf_of_target (h artefact) htarget)
    hsame (List.prefix_refl names)

/-- The artefacts in a directory without links: each can be written unless a directory stands under its
name. -/
theorem target_pathOf {entries : List (String × Node)} (hhere : tree.here.isAbsolute)
    (hnode : tree.node store.directory = .ok (.directory entries))
    (hname : ∀ artefact : Artefact, tree.Admits store.directory artefact.name)
    (hlink : ∀ (artefact : Artefact) link, entries.lookup artefact.name ≠ some (.link link)) :
    ∃ place, tree.root.at? place = some (.directory entries) ∧ ∀ artefact,
      tree.target (store.pathOf artefact) =
        if (entries.lookup artefact.name).any Node.isDirectory then .error .isDirectory
        else .ok (place ++ [artefact.name], FileTree.held entries artefact.name) := by
  obtain ⟨place, hdir, hentries⟩ := FileTree.exists_find_of_directory hhere hnode
  exact ⟨place, hentries, fun artefact =>
    FileTree.target_child hdir hentries (hname artefact) (hlink artefact)⟩

theorem distinct_of_directory {entries : List (String × Node)} (hhere : tree.here.isAbsolute)
    (hnode : tree.node store.directory = .ok (.directory entries))
    (hlink : ∀ (artefact : Artefact) link, entries.lookup artefact.name ≠ some (.link link)) :
    store.Distinct tree := by
  refine distinct_of_unlinked fun artefact place link hplace => ?_
  obtain ⟨dir, hdir, rfl⟩ := FileTree.placeOf_child hplace
  obtain ⟨found, hfound, hentries⟩ := FileTree.exists_find_of_directory hhere hnode
  obtain rfl := Except.ok.inj (hdir.symm.trans hfound)
  rw [Node.at?_append_singleton hentries]
  exact hlink artefact link

theorem Distinct.pairwise (h : store.Distinct tree) (documents : Documents) (clock : Clock) :
    (documents.edits store clock).Pairwise fun edit next => tree.Apart edit.path next.path := by
  rw [Documents.edits, List.pairwise_map]
  have hnodup : Artefact.all.Nodup := by decide
  exact hnodup.imp fun hne => h.apart _ _ hne

/-- Each artefact leads, when it is its turn, where it has led before. -/
theorem Distinct.sameTarget (h : store.Distinct tree) (documents : Documents) (clock : Clock)
    (artefact : Artefact) :
    tree.SameTarget (documents.turn store clock tree artefact) (store.pathOf artefact) := by
  have hsub : artefact.before.Sublist Artefact.all := by cases artefact <;> decide
  have hnew : artefact ∉ artefact.before := by cases artefact <;> decide
  have hpairwise := h.pairwise documents clock
  refine FileTree.sameTarget_editAll (hpairwise.sublist (hsub.map _)) fun edit hedit => ?_
  obtain ⟨other, hother, rfl⟩ := List.mem_map.1 hedit
  have hne : other ≠ artefact := by
    rintro rfl
    exact hnew hother
  exact h.apart other artefact hne

/-- What becomes of files that are written one after the other. -/
theorem delivered_editAll (h : store.Distinct tree) (documents : Documents) (clock : Clock) :
    store.Delivered clock documents tree (tree.editAll (documents.edits store clock)) := by
  have hpairwise := h.pairwise documents clock
  have hother : ∀ place, (∀ artefact names old,
      tree.target (store.pathOf artefact) = .ok (names, old) → ¬place <+: names) →
      (tree.editAll (documents.edits store clock)).root.at? place = tree.root.at? place := by
    intro place hplace
    refine FileTree.at?_editAll_other hpairwise fun edit hedit => ?_
    obtain ⟨artefact, -, rfl⟩ := List.mem_map.1 hedit
    exact hplace artefact
  constructor
  · intro artefact names old htarget
    exact FileTree.at?_editAll hpairwise (List.mem_map_of_mem artefact.mem_all) htarget
  · intro artefact place hrefused hplace
    refine hother place fun other names old htarget => ?_
    have hne : artefact ≠ other := by
      rintro rfl
      exact hrefused ⟨names, old, htarget⟩
    exact h.aside artefact other place names old hne hplace htarget
  · exact hother

variable {outcome : Except FileError Unit}

/-- The outcome of writing an artefact when it is its turn. -/
theorem admission_spec {path : Path} (h : made.SameTarget after path)
    (hsystem : ∀ cause, made.target path = .error cause → cause.OfSystem) :
    (after.admission path = .ok () ↔ made.Writable path) ∧
      ∀ error, after.admission path = .error error → error.isRefusal := by
  refine ⟨FileTree.admission_eq_ok.trans h.writable_iff, fun error herror => ?_⟩
  unfold FileTree.admission at herror
  split at herror
  · next cause hcause =>
    cases herror
    exact FileError.isRefusal_iff.2 (h.ofSystem hsystem hcause)
  · cases herror

/-- In a directory that is there or can be made, each artefact is written if that is not refused. -/
theorem deliver_made (hmake : tree.makeDirectory store.directory = (made, .ok ()))
    (hdistinct : store.Distinct made)
    (hsystem : ∀ artefact cause, made.target (store.pathOf artefact) = .error cause →
      cause.OfSystem) (documents : Documents) (clock : Clock) :
    ∃ outcome, documents.deliver store clock tree =
        (made.editAll (documents.edits store clock), outcome) ∧
      ∀ artefact, (outcome artefact = .ok () ↔ made.Writable (store.pathOf artefact)) ∧
        ∀ error, outcome artefact = .error error → error.isRefusal := by
  obtain ⟨-, -, hagain⟩ := FileTree.makeDirectory_made hmake
  have hmakes : ∀ artefact, (documents.turn store clock made artefact).makeDirectory
      store.directory = (documents.turn store clock made artefact, .ok ()) :=
    fun artefact => hagain _ (made.here_editAll _) (made.grows_editAll _)
  refine ⟨fun artefact => (documents.turn store clock made artefact).admission
    (store.pathOf artefact), ?_,
    fun artefact => admission_spec (hdistinct.sameTarget documents clock artefact) (hsystem artefact)⟩
  have hdelivers : ∀ artefact, (documents.turn store clock made artefact).deliver store.directory
      (documents.edit store clock artefact) =
        ((documents.turn store clock made artefact).edited (documents.edit store clock artefact),
          (documents.turn store clock made artefact).admission (store.pathOf artefact)) :=
    fun artefact => FileTree.deliver_of_made (hmakes artefact) _
  have hreport := FileTree.deliver_of_made hmake (documents.edit store clock .report)
  rw [Documents.deliver, hreport]
  dsimp only
  rw [show made.edited (documents.edit store clock .report) = documents.turn store clock made .history
    from rfl, hdelivers .history]
  dsimp only
  rw [show (documents.turn store clock made .history).edited (documents.edit store clock .history) =
    documents.turn store clock made .baseline from rfl, hdelivers .baseline]
  refine Prod.ext rfl (funext fun artefact => ?_)
  cases artefact <;> rfl

theorem nul_notMem_of_made (hhere : tree.here.isAbsolute)
    (hmade : (tree.makeDirectory store.directory).1 = made)
    (hsystem : ∀ artefact cause, made.target (store.pathOf artefact) = .error cause →
      cause.OfSystem) : '\x00' ∉ (tree.absolute store.directory).text.toList := by
  have hsame : made.here = tree.here := by
    rw [← hmade]
    exact (FileTree.makeAll_spec tree _ rfl).1
  have hnul := FileTree.nul_notMem_of_target (hsame ▸ hhere) (hsystem .report)
  rw [FileTree.absolute, hsame] at hnul
  exact hnul

/-- Where their directory cannot be made, nothing stands at the paths of the artefacts, and nothing is
written. -/
theorem editAll_of_failed {error : FileError} (hhere : tree.here.isAbsolute)
    (hpath : '\x00' ∉ (tree.absolute store.directory).text.toList)
    (hmake : tree.makeDirectory store.directory = (made, .error error)) (documents : Documents)
    (clock : Clock) :
    made.editAll (documents.edits store clock) = made ∧ ∀ artefact,
      ¬made.Writable (store.pathOf artefact) ∧ ∀ node,
        tree.node (store.pathOf artefact) ≠ .ok node ∧ made.node (store.pathOf artefact) ≠ .ok node := by
  obtain ⟨hsame, -, -, ⟨again, hagain, -⟩, hnothing⟩ :=
    FileTree.makeDirectory_failed hhere hpath hmake
  have hnone : ∀ artefact, ¬made.Writable (store.pathOf artefact) :=
    fun artefact => FileTree.not_writable_of_failed (hsame ▸ hhere) hagain artefact.name
  have hedited : ∀ artefact, made.edited (documents.edit store clock artefact) = made := by
    intro artefact
    obtain ⟨cause, hcause⟩ := FileTree.not_writable_iff.1 (hnone artefact)
    exact FileTree.edited_of_error hcause
  refine ⟨?_, fun artefact => ⟨hnone artefact, hnothing artefact.name⟩⟩
  change ((made.edited (documents.edit store clock .report)).edited
    (documents.edit store clock .history)).edited (documents.edit store clock .baseline) = made
  rw [hedited, hedited, hedited]

theorem deliver_failed {error : FileError} (hhere : tree.here.isAbsolute)
    (hpath : '\x00' ∉ (tree.absolute store.directory).text.toList)
    (hmake : tree.makeDirectory store.directory = (made, .error error)) (documents : Documents)
    (clock : Clock) :
    ∃ outcome, documents.deliver store clock tree =
        (made.editAll (documents.edits store clock), outcome) ∧
      ∀ artefact, (outcome artefact = .ok () ↔ made.Writable (store.pathOf artefact)) ∧
        ∀ error, outcome artefact = .error error → error.isRefusal := by
  obtain ⟨hsame, hnone⟩ := editAll_of_failed hhere hpath hmake documents clock
  obtain ⟨-, -, hrefusal, ⟨again, hagain, hrefusal'⟩, -⟩ :=
    FileTree.makeDirectory_failed hhere hpath hmake
  have hlater := fun artefact =>
    FileTree.deliver_of_failed hagain (documents.edit store clock artefact)
  rw [hsame, Documents.deliver, FileTree.deliver_of_failed hmake]
  dsimp only
  rw [hlater .history]
  dsimp only
  rw [hlater .baseline]
  refine ⟨_, rfl, fun artefact => ⟨⟨fun hok => ?_, fun hok => absurd hok (hnone artefact).1⟩, ?_⟩⟩
  · cases artefact <;> cases hok
  · intro error' herror
    cases artefact with
    | report => exact Except.error.inj herror ▸ hrefusal
    | history => exact Except.error.inj herror ▸ hrefusal'
    | baseline => exact Except.error.inj herror ▸ hrefusal'

/-- Writing the artefacts one after the other writes each of them if that is not refused. -/
theorem deliver_spec (hhere : tree.here.isAbsolute)
    (hmade : (tree.makeDirectory store.directory).1 = made) (hdistinct : store.Distinct made)
    (hsystem : ∀ artefact cause, made.target (store.pathOf artefact) = .error cause →
      cause.OfSystem) (documents : Documents) (clock : Clock) :
    ∃ outcome, documents.deliver store clock tree =
        (made.editAll (documents.edits store clock), outcome) ∧
      ∀ artefact, (outcome artefact = .ok () ↔ made.Writable (store.pathOf artefact)) ∧
        ∀ error, outcome artefact = .error error → error.isRefusal := by
  cases hmake : tree.makeDirectory store.directory with
  | mk made' outcome =>
    obtain rfl : made' = made := by rw [← hmade, hmake]
    cases outcome with
    | ok done => exact deliver_made hmake hdistinct hsystem documents clock
    | error error =>
      exact deliver_failed hhere (nul_notMem_of_made hhere hmade hsystem) hmake documents clock

end Store
end KotlinAudit
