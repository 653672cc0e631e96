import KotlinAudit.Proofs.FileTree.Writing

/-! Files that are written one after the other. As long as they are different files, each of them ends
with the content it is given if it can be written, and whether it can be does not depend on the others;
nothing else in the tree is another one afterwards. -/
namespace KotlinAudit.FileTree

open Node (Seat)

variable {tree : FileTree} {names : List String} {old : Option Content}

/-- The names of the file that writing to a path changes, and what the file holds before. -/
def target (tree : FileTree) (path : Path) : Except FileCause (List String × Option Content) :=
  match refusal? (tree.absolute path) with
  | some cause => .error cause
  | none => tree.placeToWrite maxLinks (tree.absolute path)

theorem update_eq (tree : FileTree) (path : Path) (modified : Int)
    (change : Option Content → Content) : tree.update path modified change =
      match tree.target path with
      | .error cause => .error ⟨cause, path⟩
      | .ok (names, old) => .ok (tree.placed names (change old) modified) := by
  unfold update target
  cases refusal? (tree.absolute path) with
  | some cause => rfl
  | none => cases tree.placeToWrite maxLinks (tree.absolute path) <;> rfl

theorem seat_of_target {path : Path} (h : tree.target path = .ok (names, old)) :
    tree.root.Seat names old := by
  unfold target at h
  split at h
  · cases h
  · exact seat_of_placeToWrite h

/-- New content for a file. -/
structure Edit where
  path : Path
  modified : Int
  change : Option Content → Content

/-- The tree after an edit, which is the same if the edit is refused. -/
def edited (tree : FileTree) (edit : Edit) : FileTree :=
  match tree.update edit.path edit.modified edit.change with
  | .error _ => tree
  | .ok after => after

def editAll (tree : FileTree) (edits : List Edit) : FileTree := edits.foldl edited tree

theorem edited_of_ok {edit : Edit} (h : tree.target edit.path = .ok (names, old)) :
    tree.edited edit = tree.placed names (edit.change old) edit.modified := by
  rw [edited, update_eq, h]

theorem edited_of_error {edit : Edit} {cause : FileCause}
    (h : tree.target edit.path = .error cause) : tree.edited edit = tree := by
  rw [edited, update_eq, h]

theorem here_edited (tree : FileTree) (edit : Edit) : (tree.edited edit).here = tree.here := by
  rw [edited, update_eq]
  cases tree.target edit.path <;> rfl

theorem absolute_edited (tree : FileTree) (edit : Edit) (path : Path) :
    (tree.edited edit).absolute path = tree.absolute path := by
  rw [absolute, here_edited, absolute]

/-- Two paths by which different files are written, if both of them can be. -/
def Apart (tree : FileTree) (path other : Path) : Prop :=
  ∀ names old old', tree.target path = .ok (names, old) → tree.target other ≠ .ok (names, old')

/-- A path leads to the same file in both trees, with the same content, or to none in both of them. -/
structure SameTarget (before after : FileTree) (path : Path) : Prop where
  found : ∀ names old, before.target path = .ok (names, old) → after.target path = .ok (names, old)
  refused : ∀ cause, before.target path = .error cause →
    after.target path = .error cause ∨ after.target path = .error .notDirectory

variable {before after : FileTree} {path other : Path}

theorem SameTarget.refl (tree : FileTree) (path : Path) : tree.SameTarget tree path :=
  ⟨fun _ _ h => h, fun _ h => .inl h⟩

theorem SameTarget.trans {between : FileTree} (h : before.SameTarget between path)
    (h' : between.SameTarget after path) : before.SameTarget after path := by
  refine ⟨fun names old hfound => h'.found names old (h.found names old hfound), fun cause hrefused => ?_⟩
  rcases h.refused cause hrefused with hsame | hfile
  · exact h'.refused cause hsame
  · rcases h'.refused _ hfile with hfile | hfile
    · exact .inr hfile
    · exact .inr hfile

/-- What can be written afterwards could be written before. -/
theorem SameTarget.of_after (h : before.SameTarget after path)
    (hfound : after.target path = .ok (names, old)) : before.target path = .ok (names, old) := by
  cases hbefore : before.target path with
  | error cause =>
    rcases h.refused cause hbefore with hsame | hfile
    · cases hfound.symm.trans hsame
    · cases hfound.symm.trans hfile
  | ok found =>
    obtain ⟨place, held⟩ := found
    rw [h.found place held hbefore] at hfound
    exact hfound

theorem Apart.of_sameTarget (h : before.Apart path other) (hpath : before.SameTarget after path)
    (hother : before.SameTarget after other) : after.Apart path other := by
  intro names old old' hfound hsame
  exact h names old old' (hpath.of_after hfound) (hother.of_after hsame)

theorem sameTarget_edited {edit : Edit} (h : tree.Apart edit.path path) :
    tree.SameTarget (tree.edited edit) path := by
  cases hedit : tree.target edit.path with
  | error cause =>
    rw [edited_of_error hedit]
    exact .refl tree path
  | ok found =>
    obtain ⟨names, old⟩ := found
    have hseat := seat_of_target hedit
    rw [edited_of_ok hedit]
    constructor
    · intro place held hfound
      have hne : place ≠ names := by
        rintro rfl
        exact h _ _ _ hedit hfound
      unfold target at hfound ⊢
      change (match refusal? (tree.absolute path) with
        | some cause => _
        | none => _) = _
      cases hrefusal : refusal? (tree.absolute path) with
      | some cause =>
        rw [hrefusal] at hfound
        cases hfound
      | none =>
        rw [hrefusal] at hfound
        dsimp only at hfound ⊢
        have hplace := placeToWrite_of_seat_ok hseat (edit.change old) edit.modified hfound
        rw [if_neg hne] at hplace
        exact hplace
    · intro cause hrefused
      unfold target at hrefused ⊢
      change (match refusal? (tree.absolute path) with
        | some cause => _
        | none => _) = _ ∨ (match refusal? (tree.absolute path) with
        | some cause => _
        | none => _) = _
      cases hrefusal : refusal? (tree.absolute path) with
      | some cause =>
        rw [hrefusal] at hrefused
        exact .inl hrefused
      | none =>
        rw [hrefusal] at hrefused
        exact placeToWrite_of_seat hseat (edit.change old) edit.modified hrefused

theorem grows_edited (tree : FileTree) (edit : Edit) : tree.root.Grows (tree.edited edit).root := by
  cases hedit : tree.target edit.path with
  | error cause =>
    rw [edited_of_error hedit]
    exact .refl _
  | ok found =>
    obtain ⟨names, old⟩ := found
    rw [edited_of_ok hedit]
    exact (seat_of_target hedit).grows _ _

theorem at?_edited {edit : Edit} (h : tree.target edit.path = .ok (names, old)) :
    (tree.edited edit).root.at? names = some (.file (edit.change old) edit.modified) := by
  rw [edited_of_ok h]
  exact (seat_of_target h).after _ _

theorem at?_edited_other {edit : Edit} {place : List String}
    (h : ∀ names old, tree.target edit.path = .ok (names, old) → ¬place <+: names) :
    (tree.edited edit).root.at? place = tree.root.at? place := by
  cases hedit : tree.target edit.path with
  | error cause => rw [edited_of_error hedit]
  | ok found =>
    obtain ⟨names, old⟩ := found
    rw [edited_of_ok hedit]
    exact (seat_of_target hedit).other _ _ (h names old hedit)

/-- A file does not lie on the way to another one. -/
theorem not_prefix_of_file {edit : Edit} {place : List String} {content : Content} {modified : Int}
    (hfile : tree.root.at? place = some (.file content modified))
    (h : ∀ old, tree.target edit.path ≠ .ok (place, old)) :
    ∀ names old, tree.target edit.path = .ok (names, old) → ¬place <+: names := by
  intro names old hedit hprefix
  have hne : place ≠ names := by
    rintro rfl
    exact h old hedit
  obtain ⟨entries, hentries⟩ := (seat_of_target hedit).directory hprefix hne
  cases hfile.symm.trans hentries

/-- Edits of different files are edits of different files after the first of them. -/
theorem pairwise_edited {edit : Edit} {rest : List Edit}
    (h : (edit :: rest).Pairwise fun edit next => tree.Apart edit.path next.path) :
    rest.Pairwise fun edit' next => (tree.edited edit).Apart edit'.path next.path := by
  obtain ⟨hedit, hrest⟩ := List.pairwise_cons.1 h
  refine hrest.imp_of_mem fun hfirst hsecond hapart => ?_
  exact hapart.of_sameTarget (sameTarget_edited (hedit _ hfirst))
    (sameTarget_edited (hedit _ hsecond))

/-- Paths lead where they led before the files were written, unless they lead to one of them. -/
theorem sameTarget_editAll {edits : List Edit}
    (hedits : edits.Pairwise fun edit next => tree.Apart edit.path next.path)
    (hpath : ∀ edit ∈ edits, tree.Apart edit.path path) :
    tree.SameTarget (tree.editAll edits) path := by
  induction edits generalizing tree with
  | nil => exact .refl tree path
  | cons edit rest ih =>
    obtain ⟨hedit, -⟩ := List.pairwise_cons.1 hedits
    rw [List.forall_mem_cons] at hpath
    have hsame := sameTarget_edited hpath.1
    refine hsame.trans (ih (pairwise_edited hedits) fun next hnext => ?_)
    exact (hpath.2 next hnext).of_sameTarget (sameTarget_edited (hedit next hnext)) hsame

theorem grows_editAll (tree : FileTree) (edits : List Edit) :
    tree.root.Grows (tree.editAll edits).root := by
  induction edits generalizing tree with
  | nil => exact .refl _
  | cons edit rest ih => exact (tree.grows_edited edit).trans (ih (tree.edited edit))

/-- A place that lies on the way to none of the files holds what it held before. -/
theorem at?_editAll_other {edits : List Edit}
    (hedits : edits.Pairwise fun edit next => tree.Apart edit.path next.path) {place : List String}
    (h : ∀ edit ∈ edits, ∀ names old, tree.target edit.path = .ok (names, old) → ¬place <+: names) :
    (tree.editAll edits).root.at? place = tree.root.at? place := by
  induction edits generalizing tree with
  | nil => rfl
  | cons edit rest ih =>
    obtain ⟨hedit, -⟩ := List.pairwise_cons.1 hedits
    rw [List.forall_mem_cons] at h
    have hlater : ∀ next ∈ rest, ∀ names old,
        (tree.edited edit).target next.path = .ok (names, old) → ¬place <+: names :=
      fun next hnext names old hfound =>
        h.2 next hnext names old ((sameTarget_edited (hedit next hnext)).of_after hfound)
    calc (tree.editAll (edit :: rest)).root.at? place
      _ = (tree.edited edit).root.at? place := ih (pairwise_edited hedits) hlater
      _ = tree.root.at? place := at?_edited_other h.1

/-- Each file that can be written ends with the content it is given, whatever happens to the others. -/
theorem at?_editAll {edits : List Edit}
    (hedits : edits.Pairwise fun edit next => tree.Apart edit.path next.path) {edit : Edit}
    (hmem : edit ∈ edits) (h : tree.target edit.path = .ok (names, old)) :
    (tree.editAll edits).root.at? names = some (.file (edit.change old) edit.modified) := by
  induction edits generalizing tree with
  | nil => cases hmem
  | cons first rest ih =>
    obtain ⟨hfirst, -⟩ := List.pairwise_cons.1 hedits
    rcases List.mem_cons.1 hmem with rfl | hrest
    · have hfile := at?_edited h
      -- the files that are written later are other ones
      have hlater : ∀ next ∈ rest, ∀ names' old',
          (tree.edited edit).target next.path = .ok (names', old') → ¬names <+: names' := by
        intro next hnext
        refine not_prefix_of_file hfile fun old' hfound => ?_
        exact hfirst next hnext names old old' h
          ((sameTarget_edited (hfirst next hnext)).of_after hfound)
      rw [← hfile]
      exact at?_editAll_other (pairwise_edited hedits) hlater
    · exact ih (pairwise_edited hedits) hrest
        ((sameTarget_edited (hfirst edit hrest)).found names old h)

end KotlinAudit.FileTree
