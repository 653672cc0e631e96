import KotlinAudit.Proofs.FileTree.Writing

/-! Making directories. Where a directory has been made it is there, and making it again changes
nothing; where it cannot be made it cannot be made the next time either, and what has been made on the
way to it stays as it is. -/
namespace KotlinAudit

/-- A cause for which the system itself refuses the use of a path. -/
def FileCause.OfSystem (cause : FileCause) : Prop := cause ≠ .circular ∧ cause ≠ .nul

instance (cause : FileCause) : Decidable cause.OfSystem := inferInstanceAs (Decidable (_ ∧ _))

namespace FileError

theorem isRefusal_iff {error : FileError} : error.isRefusal ↔ error.cause.OfSystem := by
  obtain ⟨cause, path⟩ := error
  have hrefusal : isRefusal ⟨cause, path⟩ = (cause != .circular && cause != .nul) := by
    cases cause <;> rfl
  rw [hrefusal]
  simp [FileCause.OfSystem]

end FileError

namespace Node

/-- Whatever stands somewhere before stands there afterwards, but directories can have other entries. -/
def Extends (before after : Node) : Prop :=
  ∀ names node, before.at? names = some node → after.at? names = some node ∨
    ∃ entries entries', node = .directory entries ∧ after.at? names = some (.directory entries')

theorem Extends.refl (root : Node) : Extends root root := fun _ _ hnode => .inl hnode

theorem Extends.trans {before between after : Node} (h : before.Extends between)
    (h' : between.Extends after) : before.Extends after := by
  intro names node hnode
  rcases h names node hnode with hsame | ⟨entries, middle, rfl, hmiddle⟩
  · exact h' names node hsame
  · rcases h' names _ hmiddle with hlast | ⟨_, entries', -, hlast⟩
    · exact .inr ⟨entries, middle, rfl, hlast⟩
    · exact .inr ⟨entries, entries', rfl, hlast⟩

theorem Extends.grows {before after : Node} (h : before.Extends after) : before.Grows after := by
  intro names node hnode
  rcases h names node hnode with hsame | ⟨entries, entries', rfl, hlast⟩
  · exact ⟨node, hsame, .refl node⟩
  · exact ⟨_, hlast, .directory ..⟩

/-- A tree is extended by a directory where nothing stands. -/
theorem extends_set {root : Node} {dir : List String} {name : String}
    {entries : List (String × Node)} (hdirectory : root.at? dir = some (.directory entries))
    (hfree : entries.lookup name = none) :
    root.Extends (root.set (some (.directory [])) (dir ++ [name])) := by
  have hnone : ∀ node, entries.lookup name ≠ some node := by
    intro node hnode
    cases hfree.symm.trans hnode
  intro place node hnode
  by_cases hplace : place <+: dir ++ [name]
  · have hne : place ≠ dir ++ [name] := by
      rintro rfl
      rw [at?_append_singleton hdirectory] at hnode
      exact hnone node hnode
    obtain ⟨found, hfound⟩ := exists_directory_of_prefix hdirectory hplace hne
    obtain rfl := Option.some.inj (hnode.symm.trans hfound)
    have hgrows : root.Grows (root.set (some (.directory [])) (dir ++ [name])) :=
      grows_set hdirectory name fun old hold => absurd hold (hnone old)
    obtain ⟨node', hnode', hkind⟩ := hgrows place _ hfound
    cases hkind with
    | directory _ entries' => exact .inr ⟨found, entries', rfl, hnode'⟩
  · left
    rw [at?_set_other hdirectory bare_directory_nil (fun old hold => absurd hold (hnone old)) hplace]
    exact hnode

end Node

namespace FileTree

variable {tree made : FileTree} {names above : List String} {name last : String}

theorem absolute_rooted (tree : FileTree) (names : List String) :
    tree.absolute ⟨1, names⟩ = ⟨1, names⟩ :=
  absolute_of_isAbsolute rfl

/-- Some names lead from the root to a directory. -/
def Leads (tree : FileTree) (names : List String) : Prop :=
  ∃ entries, tree.node ⟨1, names⟩ = .ok (.directory entries)

/-- What stands below a place stands in a directory there. -/
theorem leads_of_node {more : List String} {node : Node} (h : tree.node ⟨1, names ++ more⟩ = .ok node)
    (hmore : more ≠ []) : tree.Leads names := by
  obtain ⟨hpath, place, hplace, -⟩ := exists_place_of_node h
  rw [absolute_rooted] at hpath hplace
  obtain ⟨middle, hmiddle⟩ := exists_of_findFrom_append maxLinks [] names more hplace
  obtain ⟨left, hleft⟩ := findFrom_append maxLinks [] names more hmiddle
  obtain ⟨next, rest, rfl⟩ := List.exists_cons_of_ne_nil hmore
  obtain ⟨found, hfound⟩ := exists_directory_of_findFrom (hleft.symm.trans hplace)
  refine ⟨found, node_of_place middle ?_ ?_ hfound⟩
  · rw [absolute_rooted]
    exact refusal?_of_append (next :: rest) Nat.one_ne_zero (Nat.le_refl 1) hpath
  · rw [absolute_rooted]
    exact hmiddle

theorem Leads.of_append {more : List String} (h : tree.Leads (names ++ more)) (hmore : more ≠ []) :
    tree.Leads names :=
  leads_of_node h.choose_spec hmore

/-- A tree that has grown leads to the same directories. -/
theorem Leads.of_grows {after : FileTree} (h : tree.Leads names)
    (hgrows : tree.root.Grows after.root) : after.Leads names := by
  obtain ⟨entries, hnode⟩ := h
  obtain ⟨hpath, place, hplace, hat⟩ := exists_place_of_node hnode
  rw [absolute_rooted] at hpath hplace
  obtain ⟨node', hnode', hkind⟩ := hgrows _ _ hat
  cases hkind with
  | directory _ entries' =>
    refine ⟨entries', node_of_place place ?_ ?_ hnode'⟩
    · rw [absolute_rooted]
      exact hpath
    · rw [absolute_rooted]
      exact findFrom_of_grows hgrows _ _ _ hplace

theorem hasDirectory_iff : tree.hasDirectory ⟨1, names⟩ = .ok true ↔ tree.Leads names := by
  unfold hasDirectory node? Leads
  cases tree.node ⟨1, names⟩ with
  | error error => by_cases h : error.cause = .nameTooLong <;> simp [h, Except.map]
  | ok node => cases node <;> simp [Except.map, Node.isDirectory]

/-! ### Making one directory -/

/-- The last name of a path stands where it is looked up. -/
theorem placeOf_entryOf (tree : FileTree) (path : Path) : tree.placeOf path =
    match refusal? (tree.absolute path) with
    | some cause => .error cause
    | none => (tree.entryOf (tree.absolute path)).map fun (last, dir, _) => dir ++ [last] := by
  unfold placeOf entryOf
  dsimp only
  split
  · next hpath => rw [hpath]
  · next hpath hlast => simp only [hpath, hlast, Except.map]
  · next hpath hlast => simp only [hpath, hlast, if_pos, Except.map]
  · next last hdots hpath hlast =>
    simp only [hpath, hlast, if_neg hdots]
    cases tree.find (tree.absolute path).parent with
    | error cause => rfl
    | ok dir =>
      dsimp only
      cases tree.root.at? dir with
      | none => rfl
      | some node =>
        cases node with
        | file content modified => rfl
        | link target => rfl
        | directory entries =>
          by_cases hsize : maxNameSize < last.utf8ByteSize
          · simp only [if_pos hsize, Except.map]
          · simp only [if_neg hsize, Except.map]

/-- A directory is made in the directory above it, where nothing stands under its name. -/
theorem makeOne_eq_ok {path : Path} (h : tree.makeOne path = .ok made) : ∃ last dir entries,
    refusal? (tree.absolute path) = none ∧
    tree.entryOf (tree.absolute path) = .ok (last, dir, entries) ∧ entries.lookup last = none ∧
    made = tree.set (dir ++ [last]) (some (.directory [])) := by
  unfold makeOne at h
  rw [placeOf_entryOf] at h
  cases hpath : refusal? (tree.absolute path) with
  | some cause =>
    rw [hpath] at h
    cases cause with
    | isDirectory => cases hfind : tree.find path <;> simp [hfind, Except.bind] at h
    | _ => cases h
  | none =>
    rw [hpath] at h
    cases hentry : tree.entryOf (tree.absolute path) with
    | error cause =>
      rw [hentry] at h
      cases cause with
      | isDirectory => cases hfind : tree.find path <;> simp [hfind, Except.bind, Except.map] at h
      | _ => cases h
    | ok entry =>
      obtain ⟨last, dir, entries⟩ := entry
      obtain ⟨-, -, -, hentries, -⟩ := entryOf_eq_ok.1 hentry
      rw [hentry] at h
      simp only [Except.map, Node.at?_append_singleton hentries] at h
      cases hlookup : entries.lookup last with
      | some node =>
        rw [hlookup] at h
        cases h
      | none =>
        rw [hlookup] at h
        cases h
        exact ⟨last, dir, entries, rfl, rfl, hlookup, rfl⟩

theorem place_of_find {path : Path} (h : tree.find path = .ok names) :
    refusal? (tree.absolute path) = none ∧
      findFrom tree.root maxLinks [] (tree.absolute path).names = .ok names.reverse := by
  rw [find_eq] at h
  cases hpath : refusal? (tree.absolute path) with
  | some cause =>
    rw [hpath] at h
    cases h
  | none =>
    rw [hpath] at h
    cases hplace : findFrom tree.root maxLinks [] (tree.absolute path).names with
    | error cause =>
      rw [hplace] at h
      cases h
    | ok place =>
      rw [hplace] at h
      cases h
      exact ⟨rfl, by rw [List.reverse_reverse]⟩

/-- The entry that a rooted path ends with, where the names above it lead to a directory. -/
theorem leads_of_entryOf {path : Path} {dir : List String} {entries : List (String × Node)}
    (hpath : path = ⟨1, names ++ [last]⟩) (h : tree.entryOf path = .ok (name, dir, entries)) :
    name = last ∧ last ≠ ".." ∧ last.utf8ByteSize ≤ maxNameSize ∧
      findFrom tree.root maxLinks [] names = .ok dir.reverse ∧
      tree.root.at? dir = some (.directory entries) ∧ tree.Leads names := by
  subst hpath
  obtain ⟨hlast, hdots, hdir, hentries, hsize⟩ := entryOf_eq_ok.1 h
  rw [List.getLast?_concat, Option.some.injEq] at hlast
  subst hlast
  have hparent : (⟨1, names ++ [last]⟩ : Path).parent = ⟨1, names⟩ := by
    rw [Path.parent, List.dropLast_concat]
  rw [hparent] at hdir
  obtain ⟨hrefusal, hplace⟩ := place_of_find hdir
  rw [absolute_rooted] at hplace
  refine ⟨rfl, hdots, hsize, hplace, hentries, entries, ?_⟩
  rw [node_of_find hdir, hentries]

/-- A directory that has been made is there, and the directory above it has been there before. -/
theorem leads_of_makeOne (h : tree.makeOne ⟨1, names ++ [last]⟩ = .ok made) :
    made.here = tree.here ∧ tree.root.Extends made.root ∧ tree.Leads names ∧
      made.Leads (names ++ [last]) := by
  obtain ⟨name, dir, entries, hpath, hentry, hlookup, rfl⟩ := makeOne_eq_ok h
  rw [absolute_rooted] at hpath hentry
  obtain ⟨rfl, hdots, hsize, hplace, hentries, hleads⟩ := leads_of_entryOf rfl hentry
  have hextends : tree.root.Extends (tree.set (dir ++ [name]) (some (.directory []))).root :=
    Node.extends_set hentries hlookup
  refine ⟨rfl, hextends, hleads, [], ?_⟩
  have hafter : (tree.set (dir ++ [name]) (some (.directory []))).root.at? dir =
      some (.directory (Node.setEntry name (some (.directory [])) entries)) := Node.at?_set hentries name
  have hat : (tree.set (dir ++ [name]) (some (.directory []))).root.at? (name :: dir.reverse).reverse =
      some (.directory []) := by
    rw [List.reverse_cons, List.reverse_reverse, Node.at?_append_singleton hafter,
      Node.lookup_setEntry, if_pos rfl]
  refine node_of_place (name :: dir.reverse) ?_ ?_ hat
  · rw [absolute_rooted]
    exact hpath
  · rw [absolute_rooted]
    have hfound := findFrom_of_grows hextends.grows _ _ _ hplace
    obtain ⟨left, hleft⟩ := findFrom_append maxLinks [] names [name] hfound
    rw [hleft, findFrom_cons (by rw [List.reverse_reverse]; exact hafter), if_neg hdots,
      if_neg (Nat.not_lt_of_le hsize), Node.lookup_setEntry, if_pos rfl]
    change findFrom _ left (name :: dir.reverse) [] = _
    rw [findFrom_nil, hat]
    rfl

/-! ### Making all directories on the way -/

theorem makeAll_of_leads (h : tree.Leads names) : tree.makeAll names.reverse = (tree, .ok ()) :=
  makeAll_of_directory h.choose_spec

theorem leads_of_orPresent {path : Path} {cause : FileCause} (hpath : path = ⟨1, names⟩) :
    tree.orPresent path cause = .ok () ↔ tree.Leads names := by
  subst hpath
  rw [← hasDirectory_iff, orPresent]
  cases tree.hasDirectory ⟨1, names⟩ with
  | error error => simp
  | ok found => cases found <;> simp

/-- What making a directory and those above it leaves: a tree that has been extended, with the directory if it
could be made. -/
theorem makeAll_spec (tree : FileTree) (above : List String) {outcome : Except FileError Unit}
    (h : tree.makeAll above = (made, outcome)) :
    made.here = tree.here ∧ tree.root.Extends made.root ∧
      (outcome = .ok () → above = [] ∨ made.Leads above.reverse) := by
  induction above generalizing made outcome with
  | nil =>
    cases h
    exact ⟨rfl, .refl _, fun _ => .inl rfl⟩
  | cons last above ih =>
    rw [makeAll, List.reverse_cons] at h
    rw [List.reverse_cons]
    split at h
    · next tree' hmade =>
      cases h
      obtain ⟨hhere, hextends, -, hleads⟩ := leads_of_makeOne hmade
      exact ⟨hhere, hextends, fun _ => .inr hleads⟩
    · split at h
      · next tree' error habove =>
        cases h
        obtain ⟨hhere, hextends, -⟩ := ih habove
        exact ⟨hhere, hextends, by rintro ⟨⟩⟩
      · next tree' habove =>
        obtain ⟨hhere, hextends, -⟩ := ih habove
        split at h
        · next tree'' hmade =>
          cases h
          obtain ⟨hhere', hextends', -, hleads⟩ := leads_of_makeOne hmade
          exact ⟨hhere'.trans hhere, hextends.trans hextends', fun _ => .inr hleads⟩
        · cases h
          exact ⟨hhere, hextends, by rintro ⟨⟩⟩
        · cases h
          exact ⟨hhere, hextends, fun hpresent => .inr ((leads_of_orPresent rfl).1 hpresent)⟩
    · cases h
      exact ⟨rfl, .refl _, by rintro ⟨⟩⟩
    · cases h
      exact ⟨rfl, .refl _, fun hpresent => .inr ((leads_of_orPresent rfl).1 hpresent)⟩

theorem makeOne_ne_ok (h : ¬tree.Leads names) (made : FileTree) :
    tree.makeOne ⟨1, names ++ [last]⟩ ≠ .ok made := by
  intro hmade
  obtain ⟨-, -, hleads, -⟩ := leads_of_makeOne hmade
  exact h hleads

theorem not_leads_of_makeOne {cause : FileCause}
    (h : tree.makeOne ⟨1, names ++ [last]⟩ = .error cause) (hcause : cause ≠ .present) :
    ¬tree.Leads (names ++ [last]) := by
  rintro ⟨entries, hnode⟩
  rw [makeOne_of_directory hnode, Except.error.injEq] at h
  exact hcause h.symm

theorem not_leads_of_orPresent {cause : FileCause} {error : FileError}
    (h : tree.orPresent ⟨1, names⟩ cause = .error error) : ¬tree.Leads names := by
  intro hleads
  rw [(leads_of_orPresent rfl).2 hleads] at h
  cases h

theorem exists_error_of_orPresent (h : ¬tree.Leads names) (cause : FileCause) :
    ∃ error, tree.orPresent ⟨1, names⟩ cause = .error error := by
  cases hpresent : tree.orPresent ⟨1, names⟩ cause with
  | ok done => exact absurd ((leads_of_orPresent rfl).1 hpresent) h
  | error error => exact ⟨error, rfl⟩

/-- The next attempt to make a directory fails where the directories above it cannot be made again or
where it has failed before. -/
theorem exists_makeAll_error {cause : FileCause} (h : ¬tree.Leads (above.reverse ++ [last]))
    (hmake : tree.makeOne ⟨1, above.reverse ++ [last]⟩ = .error cause)
    (habove : cause = .missing → ∃ outcome, tree.makeAll above = (tree, outcome)) :
    ∃ again, tree.makeAll (last :: above) = (tree, .error again) := by
  obtain ⟨again, hpresent⟩ := exists_error_of_orPresent h cause
  rw [makeAll, List.reverse_cons, hmake]
  cases cause with
  | missing =>
    obtain ⟨outcome, houtcome⟩ := habove rfl
    dsimp only
    rw [houtcome]
    cases outcome with
    | error error => exact ⟨error, rfl⟩
    | ok done =>
      dsimp only
      rw [hmake]
      exact ⟨_, rfl⟩
  | nul => exact ⟨_, rfl⟩
  | _ => exact ⟨again, by dsimp only; rw [hpresent]⟩

/-- A directory that could not be made is not there, and the next attempt to make it changes nothing
and fails as well. -/
theorem makeAll_again {error : FileError} (h : tree.makeAll above = (made, .error error)) :
    ¬made.Leads above.reverse ∧ ∃ again, made.makeAll above = (made, .error again) := by
  induction above generalizing made error with
  | nil => cases h
  | cons last above ih =>
    rw [List.reverse_cons]
    have hagain := h
    rw [makeAll, List.reverse_cons] at h
    split at h
    · cases h
    · split at h
      · next tree' error habove =>
        cases h
        obtain ⟨hleads, again, hfails⟩ := ih habove
        have hbelow : ¬made.Leads (above.reverse ++ [last]) := fun hmade =>
          hleads (hmade.of_append (List.cons_ne_nil _ _))
        refine ⟨hbelow, ?_⟩
        cases hmake : made.makeOne ⟨1, above.reverse ++ [last]⟩ with
        | ok found => exact absurd hmake (makeOne_ne_ok hleads found)
        | error cause => exact exists_makeAll_error hbelow hmake fun _ => ⟨_, hfails⟩
      · next tree' habove =>
        obtain ⟨-, -, hfound⟩ := makeAll_spec tree above habove
        have hsame : tree'.makeAll above = (tree', .ok ()) := by
          rcases hfound rfl with rfl | hleads
          · rfl
          · have hmade := makeAll_of_leads hleads
            rwa [List.reverse_reverse] at hmade
        have hfails : ∀ cause, tree'.makeOne ⟨1, above.reverse ++ [last]⟩ = .error cause →
            ¬tree'.Leads (above.reverse ++ [last]) →
            ∃ again, tree'.makeAll (last :: above) = (tree', .error again) :=
          fun cause hmake hleads => exists_makeAll_error hleads hmake fun _ => ⟨_, hsame⟩
        split at h
        · cases h
        · next hmake =>
          cases h
          have hleads := not_leads_of_makeOne hmake (by decide)
          exact ⟨hleads, hfails _ hmake hleads⟩
        · next cause _ hmake =>
          obtain ⟨rfl, hpresent⟩ := Prod.mk.inj h
          have hleads := not_leads_of_orPresent hpresent
          exact ⟨hleads, hfails _ hmake hleads⟩
    · next hmake =>
      cases h
      exact ⟨not_leads_of_makeOne hmake (by decide), _, hagain⟩
    · next cause _ _ hmake =>
      obtain ⟨rfl, hpresent⟩ := Prod.mk.inj h
      exact ⟨not_leads_of_orPresent hpresent, _, hagain⟩

/-! ### Refusals -/

theorem ofSystem_of_findFrom {root : Node} (links : Nat) (place names : List String)
    {cause : FileCause} (h : findFrom root links place names = .error cause) : cause.OfSystem := by
  match names with
  | [] =>
    rw [findFrom_nil] at h
    split at h
    · cases h
    · cases h
      decide
  | name :: rest =>
    cases goes root place name with
    | ends other hother hends =>
      cases (hends links rest).symm.trans h
      rcases hother with rfl | rfl | rfl <;> decide
    | moves next _ hmoves =>
      rw [hmoves root (.refl root)] at h
      exact ofSystem_of_findFrom links next rest h
    | follows target hnone hfollows =>
      cases links with
      | zero =>
        cases (hnone root (.refl root) rest).symm.trans h
        decide
      | succ links =>
        rw [hfollows root (.refl root)] at h
        exact ofSystem_of_findFrom links _ (target.names ++ rest) h
termination_by (links, names.length)

theorem ofSystem_of_refusal? {path : Path} {cause : FileCause} (hpath : '\x00' ∉ path.text.toList)
    (h : refusal? path = some cause) : cause.OfSystem := by
  unfold refusal? at h
  rw [if_neg (by simpa using hpath)] at h
  split at h
  · cases h
    decide
  · cases h

theorem ofSystem_of_find {path : Path} {cause : FileCause}
    (hpath : '\x00' ∉ (tree.absolute path).text.toList) (h : tree.find path = .error cause) :
    cause.OfSystem := by
  rw [find_eq] at h
  cases hrefusal : refusal? (tree.absolute path) with
  | some other =>
    rw [hrefusal] at h
    cases h
    exact ofSystem_of_refusal? hpath hrefusal
  | none =>
    rw [hrefusal] at h
    cases hplace : findFrom tree.root maxLinks [] (tree.absolute path).names with
    | ok place =>
      rw [hplace] at h
      cases h
    | error other =>
      rw [hplace] at h
      cases h
      exact ofSystem_of_findFrom _ _ _ hplace

theorem ofSystem_of_entryOf {path : Path} {cause : FileCause}
    (hpath : '\x00' ∉ (tree.absolute path.parent).text.toList)
    (h : tree.entryOf path = .error cause) : cause.OfSystem := by
  unfold entryOf at h
  split at h
  · cases h
    decide
  · split at h
    · cases h
      decide
    · split at h
      · next hfind =>
        cases h
        exact ofSystem_of_find hpath hfind
      · split at h
        · split at h
          · cases h
            decide
          · cases h
        · cases h
          decide

/-- A path without a NUL has none on the way to it. -/
theorem nul_notMem_of_append {more : List String}
    (h : '\x00' ∉ (⟨1, names ++ more⟩ : Path).text.toList) :
    '\x00' ∉ (⟨1, names⟩ : Path).text.toList := by
  obtain ⟨rest, hrest⟩ := exists_intercalate_append names more
  rw [Path.text_of_isAbsolute rfl, hrest] at h
  rw [Path.text_of_isAbsolute rfl]
  simp only [String.toList_append, List.mem_append, not_or] at h ⊢
  exact ⟨h.1, h.2.1⟩

theorem ofSystem_of_makeOne {cause : FileCause}
    (hpath : '\x00' ∉ (⟨1, names ++ [last]⟩ : Path).text.toList)
    (h : tree.makeOne ⟨1, names ++ [last]⟩ = .error cause) : cause.OfSystem := by
  have hparent : (⟨1, names ++ [last]⟩ : Path).parent = ⟨1, names⟩ := by
    rw [Path.parent, List.dropLast_concat]
  have hplace : ∀ other, tree.placeOf ⟨1, names ++ [last]⟩ = .error other → other.OfSystem := by
    intro other hother
    rw [placeOf_entryOf, absolute_rooted] at hother
    split at hother
    · next hrefusal =>
      cases hother
      exact ofSystem_of_refusal? hpath hrefusal
    · cases hentry : tree.entryOf ⟨1, names ++ [last]⟩ with
      | ok entry =>
        rw [hentry] at hother
        cases hother
      | error found =>
        rw [hentry] at hother
        cases hother
        refine ofSystem_of_entryOf ?_ hentry
        rw [hparent, absolute_rooted]
        exact nul_notMem_of_append hpath
  unfold makeOne at h
  split at h
  · cases hfind : tree.find ⟨1, names ++ [last]⟩ with
    | error found =>
      rw [hfind] at h
      cases h
      exact ofSystem_of_find (by rwa [absolute_rooted]) hfind
    | ok found =>
      rw [hfind] at h
      cases h
      decide
  · next hother =>
    cases h
    exact hplace _ hother
  · split at h
    · cases h
      decide
    · cases h

theorem isRefusal_of_orPresent {path : Path} {cause : FileCause} {error : FileError}
    (hcause : cause.OfSystem) (h : tree.orPresent path cause = .error error) : error.isRefusal := by
  unfold orPresent at h
  split at h
  · cases h
  · cases h
    exact FileError.isRefusal_iff.2 hcause
  · next hdirectory =>
    cases h
    unfold hasDirectory node? at hdirectory
    split at hdirectory
    · cases hdirectory
    · split at hdirectory
      · next htoo =>
        cases hdirectory
        rw [FileError.isRefusal_iff, htoo]
        decide
      · cases hdirectory

/-- A directory that cannot be made is refused by the system, unless its path has a NUL. -/
theorem isRefusal_of_makeAll {error : FileError}
    (hpath : '\x00' ∉ (⟨1, above.reverse⟩ : Path).text.toList)
    (h : tree.makeAll above = (made, .error error)) : error.isRefusal := by
  induction above generalizing made error with
  | nil => cases h
  | cons last above ih =>
    rw [List.reverse_cons] at hpath
    rw [makeAll, List.reverse_cons] at h
    split at h
    · cases h
    · split at h
      · next habove =>
        cases h
        exact ih (nul_notMem_of_append hpath) habove
      · split at h
        · cases h
        · cases h
          exact FileError.isRefusal_iff.2 (by decide : FileCause.missing.OfSystem)
        · next cause _ hmake =>
          exact isRefusal_of_orPresent (ofSystem_of_makeOne hpath hmake) (Prod.mk.inj h).2
    · next hmake =>
      exact absurd rfl (ofSystem_of_makeOne hpath hmake).2
    · next cause _ _ hmake =>
      exact isRefusal_of_orPresent (ofSystem_of_makeOne hpath hmake) (Prod.mk.inj h).2

/-! ### A directory for files -/

variable {dir : Path}

/-- Where a directory could be made, making it again changes nothing, in a tree that has grown as
well. -/
theorem makeDirectory_made (h : tree.makeDirectory dir = (made, .ok ())) :
    made.here = tree.here ∧ tree.root.Extends made.root ∧
      ∀ after : FileTree, after.here = made.here → made.root.Grows after.root →
        after.makeDirectory dir = (after, .ok ()) := by
  obtain ⟨hhere, hextends, hfound⟩ := makeAll_spec tree _ h
  refine ⟨hhere, hextends, fun after hafter hgrown => ?_⟩
  have hsame : after.absolute dir = tree.absolute dir := by
    rw [absolute, absolute, hafter, hhere]
  rw [makeDirectory, hsame]
  rcases hfound rfl with hnone | hleads
  · rw [hnone]
    rfl
  · rw [List.reverse_reverse] at hleads
    exact makeAll_of_leads (hleads.of_grows hgrown)

theorem leads_of_node_child (hhere : tree.here.isAbsolute) {name : String} {node : Node}
    (h : tree.node (dir.child name) = .ok node) : tree.Leads (tree.absolute dir).names := by
  have hnode := node_names hhere h
  have hchild : (tree.absolute (dir.child name)).names = (tree.absolute dir).names ++ [name] := by
    rw [absolute_child]
    rfl
  rw [hchild] at hnode
  exact leads_of_node hnode (List.cons_ne_nil _ _)

/-- Where a directory cannot be made the system refuses it, the next time as well, and nothing stands
in it before or afterwards. -/
theorem makeDirectory_failed {error : FileError} (hhere : tree.here.isAbsolute)
    (hpath : '\x00' ∉ (tree.absolute dir).text.toList)
    (h : tree.makeDirectory dir = (made, .error error)) :
    made.here = tree.here ∧ tree.root.Extends made.root ∧ error.isRefusal ∧
      (∃ again, made.makeDirectory dir = (made, .error again) ∧ again.isRefusal) ∧
      ∀ name node, tree.node (dir.child name) ≠ .ok node ∧ made.node (dir.child name) ≠ .ok node := by
  obtain ⟨hmadeHere, hextends, -⟩ := makeAll_spec tree _ h
  obtain ⟨hleads, again, hagain⟩ := makeAll_again h
  rw [List.reverse_reverse] at hleads
  have hsame : made.absolute dir = tree.absolute dir := by
    rw [absolute, absolute, hmadeHere]
  have hrooted : '\x00' ∉ (⟨1, (tree.absolute dir).names.reverse.reverse⟩ : Path).text.toList := by
    rw [Path.text_of_isAbsolute (isAbsolute_absolute hhere dir)] at hpath
    rw [List.reverse_reverse, Path.text_of_isAbsolute rfl]
    simp only [String.toList_append, List.mem_append, not_or] at hpath ⊢
    refine ⟨fun hslash => ?_, hpath.2⟩
    simp at hslash
  refine ⟨hmadeHere, hextends, isRefusal_of_makeAll hrooted h, ⟨again, ?_, isRefusal_of_makeAll hrooted hagain⟩,
    fun name node => ⟨fun hnode => ?_, fun hnode => ?_⟩⟩
  · rw [makeDirectory, hsame]
    exact hagain
  · exact hleads ((leads_of_node_child hhere hnode).of_grows hextends.grows)
  · have hafter := leads_of_node_child (hmadeHere.symm ▸ hhere) hnode
    rw [hsame] at hafter
    exact hleads hafter

end FileTree
end KotlinAudit
