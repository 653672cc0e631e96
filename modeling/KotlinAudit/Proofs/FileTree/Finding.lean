import KotlinAudit.FileTree.Update

/-! Putting a file where nothing or a file stands. Whatever led somewhere in the tree before leads to
the same place afterwards, as directories stay directories and links keep their targets; and a way can be
gone in two parts. -/
namespace KotlinAudit

namespace Node

theorem exists_of_isFile {node : Node} (h : node.isFile) :
    ∃ content modified, node = file content modified := by
  cases node with
  | file content modified => exact ⟨content, modified, rfl⟩
  | directory entries => cases h
  | link target => cases h

/-- Nodes that a path goes through in the same way: two directories, or links to the same target; and
two files. -/
inductive SameKind : Node → Node → Prop
  | file (content content' : Content) (modified modified' : Int) :
    SameKind (file content modified) (file content' modified')
  | directory (entries entries' : List (String × Node)) :
    SameKind (directory entries) (directory entries')
  | link (target : Path) : SameKind (link target) (link target)

theorem SameKind.refl (node : Node) : SameKind node node := by
  cases node with
  | file content modified => exact .file ..
  | directory entries => exact .directory ..
  | link target => exact .link target

/-- What stands somewhere before has something of the same kind in its place afterwards. -/
def Grows (before after : Node) : Prop :=
  ∀ names node, before.at? names = some node → ∃ node', after.at? names = some node' ∧
    SameKind node node'

theorem Grows.refl (root : Node) : Grows root root :=
  fun _ node hnode => ⟨node, hnode, .refl node⟩

@[simp] theorem at?_nil (node : Node) : node.at? [] = some node := rfl

theorem at?_cons_directory (name : String) (rest : List String) (entries : List (String × Node)) :
    (directory entries).at? (name :: rest) = (entries.lookup name).bind (at? rest) := by
  rw [at?]
  cases entries.lookup name <;> rfl

theorem at?_append (names more : List String) (node : Node) :
    node.at? (names ++ more) = (node.at? names).bind (at? more) := by
  induction names generalizing node with
  | nil => rfl
  | cons name rest ih =>
    cases node with
    | file content modified => rfl
    | link target => rfl
    | directory entries =>
      rw [List.cons_append, at?_cons_directory, at?_cons_directory]
      cases entries.lookup name with
      | none => rfl
      | some child => exact ih child

theorem at?_append_singleton {names : List String} {node : Node} {entries : List (String × Node)}
    (h : node.at? names = some (directory entries)) (name : String) :
    node.at? (names ++ [name]) = entries.lookup name := by
  rw [at?_append, h, Option.bind_some, at?_cons_directory]
  cases entries.lookup name <;> rfl

theorem lookup_setEntry_of_ne (new : Option Node) (entries : List (String × Node)) {name other : String}
    (h : other ≠ name) : (setEntry name new entries).lookup other = entries.lookup other := by
  have hne : (other == name) = false := beq_eq_false_iff_ne.2 h
  have hnew : ∀ rest, ((new.toList.map fun node => (name, node)) ++ rest).lookup other =
      rest.lookup other := by
    intro rest
    cases new with
    | none => rfl
    | some node => simp [List.lookup_cons, hne]
  induction entries with
  | nil => simpa [setEntry] using hnew []
  | cons entry rest ih =>
    obtain ⟨first, old⟩ := entry
    rw [setEntry]
    by_cases hfirst : first = name
    · subst hfirst
      rw [if_pos rfl, hnew, List.lookup_cons, hne]
    · rw [if_neg hfirst, List.lookup_cons, List.lookup_cons, ih]

theorem lookup_setEntry_self (name : String) (node : Node) (entries : List (String × Node)) :
    (setEntry name (some node) entries).lookup name = some node := by
  induction entries with
  | nil => simp [setEntry]
  | cons entry rest ih =>
    obtain ⟨first, old⟩ := entry
    rw [setEntry]
    by_cases hfirst : first = name
    · simp [hfirst]
    · have hne : (name == first) = false := beq_eq_false_iff_ne.2 (Ne.symm hfirst)
      rw [if_neg hfirst, List.lookup_cons, hne]
      exact ih

theorem lookup_setEntry (name : String) (node : Node) (entries : List (String × Node))
    (other : String) :
    (setEntry name (some node) entries).lookup other =
      if other = name then some node else entries.lookup other := by
  by_cases h : other = name
  · rw [if_pos h, h, lookup_setEntry_self]
  · rw [if_neg h, lookup_setEntry_of_ne _ _ h]

theorem set_cons_cons (new : Option Node) (name next : String) (rest : List String)
    (entries : List (String × Node)) {child : Node} (h : entries.lookup name = some child) :
    set new (name :: next :: rest) (directory entries) =
      directory (setEntry name (some (set new (next :: rest) child)) entries) := by
  rw [set, h]
  exact fun heq => List.cons_ne_nil _ _ heq

/-- A directory has the entry that has been set in it. -/
theorem at?_set {names : List String} {root : Node} {new : Option Node}
    {entries : List (String × Node)} (h : root.at? names = some (directory entries)) (name : String) :
    (root.set new (names ++ [name])).at? names = some (directory (setEntry name new entries)) := by
  induction names generalizing root with
  | nil =>
    rw [at?_nil, Option.some.injEq] at h
    subst h
    rfl
  | cons first rest ih =>
    cases root with
    | file content modified => cases h
    | link target => cases h
    | directory all =>
      rw [at?_cons_directory] at h
      cases hchild : all.lookup first with
      | none =>
        rw [hchild] at h
        cases h
      | some child =>
        rw [hchild, Option.bind_some] at h
        obtain ⟨next, others, hnext⟩ :=
          List.exists_cons_of_ne_nil (List.append_ne_nil_of_right_ne_nil rest (List.cons_ne_nil name []))
        rw [List.cons_append, hnext, set_cons_cons _ _ _ _ _ hchild, at?_cons_directory,
          lookup_setEntry, if_pos rfl, Option.bind_some, ← hnext, ih h]

/-- Setting an entry of a directory changes no more than what stands at that entry or below it: all else
is still there or has another entry somewhere below it. -/
theorem sameKind_of_set {names : List String} {root : Node} {entries : List (String × Node)}
    (h : root.at? names = some (directory entries)) (name : String) (new : Option Node)
    {place : List String} {node : Node} (hnode : root.at? place = some node) :
    (∃ more, place = names ++ name :: more) ∨
      ∃ node', (root.set new (names ++ [name])).at? place = some node' ∧ SameKind node node' := by
  induction names generalizing root place with
  | nil =>
    rw [at?_nil, Option.some.injEq] at h
    subst h
    cases place with
    | nil =>
      cases hnode
      exact .inr ⟨_, rfl, .directory ..⟩
    | cons first rest =>
      by_cases hfirst : first = name
      · exact .inl ⟨rest, by rw [hfirst]; rfl⟩
      · refine .inr ⟨node, ?_, .refl node⟩
        change (directory (setEntry name new entries)).at? (first :: rest) = some node
        rwa [at?_cons_directory, lookup_setEntry_of_ne _ _ hfirst, ← at?_cons_directory]
  | cons first rest ih =>
    cases root with
    | file content modified => cases h
    | link target => cases h
    | directory all =>
      rw [at?_cons_directory] at h
      cases hchild : all.lookup first with
      | none =>
        rw [hchild] at h
        cases h
      | some child =>
        rw [hchild, Option.bind_some] at h
        obtain ⟨next, others, hnext⟩ :=
          List.exists_cons_of_ne_nil (List.append_ne_nil_of_right_ne_nil rest (List.cons_ne_nil name []))
        rw [List.cons_append, hnext, set_cons_cons _ _ _ _ _ hchild, ← hnext]
        cases place with
        | nil =>
          cases hnode
          exact .inr ⟨_, rfl, .directory ..⟩
        | cons other more =>
          rw [at?_cons_directory] at hnode ⊢
          by_cases hother : other = first
          · subst hother
            rw [hchild, Option.bind_some] at hnode
            rw [lookup_setEntry_self, Option.bind_some]
            exact (ih h hnode).imp (fun ⟨below, hbelow⟩ => ⟨below, by rw [hbelow]; rfl⟩) id
          · rw [lookup_setEntry_of_ne _ _ hother]
            exact .inr ⟨node, hnode, .refl node⟩

/-- A tree only grows when something is put where nothing stands, or a file where a file stands. -/
theorem grows_set {names : List String} {root new : Node} {entries : List (String × Node)}
    (h : root.at? names = some (directory entries)) (name : String)
    (hfree : ∀ old, entries.lookup name = some old → old.isFile ∧ new.isFile) :
    Grows root (root.set (some new) (names ++ [name])) := by
  intro place node hnode
  rcases sameKind_of_set h name (some new) hnode with ⟨more, rfl⟩ | hkept
  · -- nothing stands below a file
    rw [at?_append, h, Option.bind_some, at?_cons_directory] at hnode
    obtain ⟨old, hold, hbelow⟩ := Option.bind_eq_some_iff.1 hnode
    obtain ⟨hfile, hnew⟩ := hfree old hold
    obtain ⟨_, _, rfl⟩ := exists_of_isFile hfile
    obtain ⟨_, _, rfl⟩ := exists_of_isFile hnew
    cases more with
    | cons next rest => cases hbelow
    | nil =>
      cases hbelow
      rw [at?_append_singleton (at?_set h name), lookup_setEntry_self]
      exact ⟨_, rfl, .file ..⟩
  · exact hkept

end Node

namespace FileTree

open Node (Grows SameKind)

theorem findFrom_nil (root : Node) (links : Nat) (place : List String) :
    findFrom root links place [] =
      if (root.at? place.reverse).isSome then .ok place else .error .missing := by
  rw [findFrom]

theorem eq_of_findFrom_nil {root : Node} {links : Nat} {place found : List String}
    (h : findFrom root links place [] = .ok found) : place = found := by
  rw [findFrom_nil] at h
  split at h
  · exact Except.ok.inj h
  · cases h

/-- A name is looked up in the directory that the way has come to. -/
theorem findFrom_cons {root : Node} {place : List String} {entries : List (String × Node)}
    (h : root.at? place.reverse = some (.directory entries)) (links : Nat) (name : String)
    (rest : List String) :
    findFrom root links place (name :: rest) =
      if name = ".." then findFrom root links place.tail rest
      else if maxNameSize < name.utf8ByteSize then .error .nameTooLong
      else match entries.lookup name, links with
        | none, _ => .error .missing
        | some (.link _), 0 => .error .tooManyLinks
        | some (.link target), links + 1 =>
          findFrom root links (if target.isAbsolute then [] else place) (target.names ++ rest)
        | some _, links => findFrom root links (name :: place) rest := by
  rw [findFrom.eq_def]
  dsimp only
  split
  · next found hfound =>
    cases h.symm.trans hfound
    rfl
  · next hfile => cases h.symm.trans hfile
  · next hother _ => exact absurd h (hother entries)

theorem findFrom_cons_of_file {root : Node} {place : List String} {content : Content} {modified : Int}
    (h : root.at? place.reverse = some (.file content modified)) (links : Nat) (name : String)
    (rest : List String) : findFrom root links place (name :: rest) = .error .notDirectory := by
  rw [findFrom.eq_def]
  simp only [h]

theorem findFrom_cons_of_none {root : Node} {place : List String}
    (h : ∀ node, root.at? place.reverse = some node → ∃ target, node = .link target) (links : Nat)
    (name : String) (rest : List String) :
    findFrom root links place (name :: rest) = .error .missing := by
  rw [findFrom.eq_def]
  dsimp only
  split
  · next found => cases (h _ found).choose_spec
  · next found => cases (h _ found).choose_spec
  · rfl

/-- A way only goes on from a directory. -/
theorem exists_directory_of_findFrom {root : Node} {links : Nat} {place : List String}
    {name : String} {rest found : List String}
    (h : findFrom root links place (name :: rest) = .ok found) :
    ∃ entries, root.at? place.reverse = some (.directory entries) := by
  rw [findFrom.eq_def] at h
  dsimp only at h
  split at h
  · next entries hentries => exact ⟨entries, hentries⟩
  · cases h
  · cases h

/-- One step on a way. Whatever is left of the links and of the names, the way ends there, it goes on
from another place, or it follows a link if it may; where it does not end, also in a tree that has
grown. -/
inductive Goes (root : Node) (place : List String) (name : String) : Prop
  | ends (cause : FileCause)
      (hcause : cause = .missing ∨ cause = .notDirectory ∨ cause = .nameTooLong)
      (h : ∀ links rest, findFrom root links place (name :: rest) = .error cause)
  | moves (next : List String)
      (hnext : next = place.tail ∨
        next = name :: place ∧ name ≠ ".." ∧ name.utf8ByteSize ≤ maxNameSize)
      (h : ∀ after, Grows root after → ∀ links rest,
        findFrom after links place (name :: rest) = findFrom after links next rest)
  | follows (target : Path)
      (hnone : ∀ after, Grows root after → ∀ rest,
        findFrom after 0 place (name :: rest) = .error .tooManyLinks)
      (h : ∀ after, Grows root after → ∀ links rest,
        findFrom after (links + 1) place (name :: rest) =
          findFrom after links (if target.isAbsolute then [] else place) (target.names ++ rest))

/-- A name of a directory in a tree that has grown. -/
theorem lookup_of_grows {root after : Node} (h : Grows root after) {place : List String}
    {entries : List (String × Node)} (hentries : root.at? place = some (.directory entries))
    {name : String} {child : Node} (hchild : entries.lookup name = some child) :
    ∃ entries' child', after.at? place = some (.directory entries') ∧
      entries'.lookup name = some child' ∧ SameKind child child' := by
  obtain ⟨node', hnode', hkind⟩ := h _ _ hentries
  cases hkind with
  | directory _ entries' =>
    rw [← Node.at?_append_singleton hentries] at hchild
    obtain ⟨child', hchild', hsame⟩ := h _ _ hchild
    exact ⟨entries', child', hnode', by rw [← Node.at?_append_singleton hnode', hchild'], hsame⟩

theorem goes (root : Node) (place : List String) (name : String) : Goes root place name := by
  cases hplace : root.at? place.reverse with
  | none =>
    have hnone : ∀ node, root.at? place.reverse = some node → ∃ target, node = .link target := by
      simp [hplace]
    exact .ends .missing (.inl rfl) fun links rest => findFrom_cons_of_none hnone links name rest
  | some node =>
    cases node with
    | file content modified =>
      exact .ends .notDirectory (.inr (.inl rfl)) fun links rest =>
        findFrom_cons_of_file hplace links name rest
    | link target =>
      have hlink : ∀ node, root.at? place.reverse = some node → ∃ target, node = .link target := by
        simp [hplace]
      exact .ends .missing (.inl rfl) fun links rest => findFrom_cons_of_none hlink links name rest
    | directory entries =>
      by_cases hdots : name = ".."
      · refine .moves place.tail (.inl rfl) fun after hafter links rest => ?_
        obtain ⟨node', hnode', hkind⟩ := hafter _ _ hplace
        cases hkind
        rw [findFrom_cons hnode', if_pos hdots]
      by_cases hsize : maxNameSize < name.utf8ByteSize
      · refine .ends .nameTooLong (.inr (.inr rfl)) fun links rest => ?_
        rw [findFrom_cons hplace, if_neg hdots, if_pos hsize]
      cases hchild : entries.lookup name with
      | none =>
        refine .ends .missing (.inl rfl) fun links rest => ?_
        rw [findFrom_cons hplace, if_neg hdots, if_neg hsize, hchild]
      | some child =>
        cases child with
        | link target =>
          refine .follows target (fun after hafter rest => ?_) fun after hafter links rest => ?_
          all_goals
            obtain ⟨entries', child', hentries', hchild', hkind⟩ :=
              lookup_of_grows hafter hplace hchild
            cases hkind
            rw [findFrom_cons hentries', if_neg hdots, if_neg hsize, hchild']
        | _ =>
          refine .moves (name :: place) (.inr ⟨rfl, hdots, Nat.le_of_not_lt hsize⟩)
            fun after hafter links rest => ?_
          obtain ⟨entries', child', hentries', hchild', hkind⟩ :=
            lookup_of_grows hafter hplace hchild
          cases hkind
          rw [findFrom_cons hentries', if_neg hdots, if_neg hsize, hchild']

/-- A step on the way: with what is left of the links, the place and the names that come before the
rest of the way. It is the same for every rest and in a tree that has grown. -/
theorem exists_step {root : Node} {links : Nat} {place : List String} {name : String}
    {rest found : List String} (h : findFrom root links place (name :: rest) = .ok found) :
    ∃ left next before, (left < links ∨ left = links ∧ before = []) ∧
      ∀ after, Grows root after → ∀ rest,
        findFrom after links place (name :: rest) = findFrom after left next (before ++ rest) := by
  cases goes root place name with
  | ends cause _ hends => cases (hends links rest).symm.trans h
  | moves next _ hmoves =>
    exact ⟨links, next, [], .inr ⟨rfl, rfl⟩, fun after hafter rest => hmoves after hafter links rest⟩
  | follows target hnone hfollows =>
    cases links with
    | zero => cases (hnone root (.refl root) rest).symm.trans h
    | succ links =>
      exact ⟨links, _, target.names, .inl (Nat.lt_succ_self links),
        fun after hafter rest => hfollows after hafter links rest⟩

/-- A way that leads somewhere leads there in a tree that has grown. -/
theorem findFrom_of_grows {before after : Node} (hgrows : Grows before after) (links : Nat)
    (place names : List String) {found : List String}
    (h : findFrom before links place names = .ok found) :
    findFrom after links place names = .ok found := by
  match names with
  | [] =>
    rw [findFrom_nil] at h ⊢
    split at h
    · next hsome =>
      obtain ⟨node, hnode⟩ := Option.isSome_iff_exists.1 hsome
      obtain ⟨node', hnode', -⟩ := hgrows _ _ hnode
      rw [hnode', Option.isSome_some, if_pos rfl]
      exact h
    · cases h
  | name :: rest =>
    obtain ⟨left, next, more, hleft, hstep⟩ := exists_step h
    rw [hstep before (.refl before)] at h
    rw [hstep after hgrows]
    exact findFrom_of_grows hgrows left next (more ++ rest) h
termination_by (links, names.length)
decreasing_by
  rcases hleft with hless | ⟨rfl, rfl⟩
  · exact Prod.Lex.left _ _ hless
  · exact Prod.Lex.right _ (Nat.lt_succ_self _)

/-- Where the first part of a way leads somewhere, every second part goes on from there, also in a tree
that has grown. -/
theorem exists_left {root : Node} (links : Nat) (place names : List String) {found : List String}
    (h : findFrom root links place names = .ok found) :
    ∃ left, ∀ after, Grows root after → ∀ more,
      findFrom after links place (names ++ more) = findFrom after left found more := by
  match names with
  | [] =>
    obtain rfl := eq_of_findFrom_nil h
    exact ⟨links, fun _ _ _ => rfl⟩
  | name :: rest =>
    obtain ⟨left, next, before, hleft, hstep⟩ := exists_step h
    rw [hstep root (.refl root)] at h
    obtain ⟨last, hlast⟩ := exists_left left next (before ++ rest) h
    refine ⟨last, fun after hafter more => ?_⟩
    rw [List.cons_append, hstep after hafter, ← List.append_assoc, hlast after hafter]
termination_by (links, names.length)
decreasing_by
  rcases hleft with hless | ⟨rfl, rfl⟩
  · exact Prod.Lex.left _ _ hless
  · exact Prod.Lex.right _ (Nat.lt_succ_self _)

theorem findFrom_append {root : Node} (links : Nat) (place names more : List String)
    {found : List String} (h : findFrom root links place names = .ok found) :
    ∃ left, findFrom root links place (names ++ more) = findFrom root left found more :=
  (exists_left links place names h).imp fun _ hleft => hleft root (.refl root) more

/-- A way that leads somewhere has led somewhere at the end of its first part. -/
theorem exists_of_findFrom_append {root : Node} (links : Nat) (place names more : List String)
    {found : List String} (h : findFrom root links place (names ++ more) = .ok found) :
    ∃ middle, findFrom root links place names = .ok middle := by
  match names with
  | [] =>
    rw [findFrom_nil]
    cases more with
    | nil =>
      rw [List.append_nil, findFrom_nil] at h
      exact ⟨found, h⟩
    | cons name rest =>
      obtain ⟨entries, hentries⟩ := exists_directory_of_findFrom h
      rw [hentries]
      exact ⟨place, rfl⟩
  | name :: rest =>
    obtain ⟨left, next, before, hleft, hstep⟩ := exists_step h
    rw [List.cons_append, hstep root (.refl root), ← List.append_assoc] at h
    rw [hstep root (.refl root)]
    exact exists_of_findFrom_append left next (before ++ rest) more h
termination_by (links, names.length)
decreasing_by
  rcases hleft with hless | ⟨rfl, rfl⟩
  · exact Prod.Lex.left _ _ hless
  · exact Prod.Lex.right _ (Nat.lt_succ_self _)

end FileTree
end KotlinAudit
