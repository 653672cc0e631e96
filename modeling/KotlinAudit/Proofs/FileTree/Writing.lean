import KotlinAudit.Proofs.FileTree.Shelf

/-! What writing a file changes. Nothing but the file itself is another one afterwards, and every other
path leads to the same file as before, or to none as before. Links are followed on the way, so a file
can stand far from the path that it is written by. -/
namespace KotlinAudit

open FileTree (findFrom held maxLinks refusal?)

namespace Node

variable {root : Node} {names : List String} {old : Option Content} {content : Content}
  {modified : Int}

/-- Some names at whose end a file can be put: they lead to a directory, and under the last of them
nothing stands there, or a file with some content. -/
inductive Seat (root : Node) : List String → Option Content → Prop
  | intro {dir : List String} {name : String} {entries : List (String × Node)}
    (directory : root.at? dir = some (.directory entries))
    (free : ∀ node, entries.lookup name = some node → node.isFile) :
    Seat root (dir ++ [name]) (held entries name)

/-- The tree with a file put at some names. -/
abbrev put (root : Node) (names : List String) (content : Content) (modified : Int) : Node :=
  root.set (some (.file content modified)) names

theorem Seat.grows (h : root.Seat names old) (content : Content) (modified : Int) :
    Grows root (root.put names content modified) := by
  obtain ⟨hdirectory, hfree⟩ := h
  exact grows_set hdirectory _ fun node hnode => ⟨hfree node hnode, rfl⟩

/-- Nothing stands below a node. -/
def Bare (node : Node) : Prop := ∀ names, names ≠ [] → node.at? names = none

theorem bare_of_isFile {file : Node} (h : file.isFile) : file.Bare := by
  obtain ⟨content, modified, rfl⟩ := exists_of_isFile h
  intro names hnames
  cases names with
  | nil => exact absurd rfl hnames
  | cons name rest => rfl

theorem bare_directory_nil : (directory []).Bare := by
  intro names hnames
  cases names with
  | nil => exact absurd rfl hnames
  | cons name rest => rfl

/-- What stands at the names before: a file of the content, or nothing. -/
theorem Seat.before (h : root.Seat names old) :
    (old = none ∧ root.at? names = none) ∨
      ∃ content modified, old = some content ∧ root.at? names = some (.file content modified) := by
  obtain ⟨hdirectory, hfree⟩ := h
  rename_i dir name entries
  rw [at?_append_singleton hdirectory]
  cases hlookup : entries.lookup name with
  | none => exact .inl ⟨by rw [held, hlookup], rfl⟩
  | some node =>
    obtain ⟨content, modified, rfl⟩ := exists_of_isFile (hfree node hlookup)
    exact .inr ⟨content, modified, by rw [held, hlookup], rfl⟩

theorem Grows.trans {before between after : Node} (h : before.Grows between)
    (h' : between.Grows after) : before.Grows after := by
  intro names node hnode
  obtain ⟨middle, hmiddle, hkind⟩ := h names node hnode
  obtain ⟨last, hlast, hkind'⟩ := h' names middle hmiddle
  refine ⟨last, hlast, ?_⟩
  cases hkind with
  | file => cases hkind' with | file => exact .file ..
  | directory => cases hkind' with | directory => exact .directory ..
  | link target => cases hkind' with | link => exact .link target

theorem Seat.after (h : root.Seat names old) (content : Content) (modified : Int) :
    (root.put names content modified).at? names = some (.file content modified) := by
  obtain ⟨hdirectory, hfree⟩ := h
  rw [at?_append_singleton (at?_set hdirectory _), lookup_setEntry, if_pos rfl]

/-- A place that does not lie on the way to what is set holds what it held before. -/
theorem at?_set_other {dir place : List String} {name : String} {entries : List (String × Node)}
    {new : Node} (hdirectory : root.at? dir = some (.directory entries)) (hnew : new.Bare)
    (hold : ∀ node, entries.lookup name = some node → node.Bare) (hplace : ¬place <+: dir ++ [name]) :
    (root.set (some new) (dir ++ [name])).at? place = root.at? place := by
  induction dir generalizing root place with
  | nil =>
    rw [at?_nil, Option.some.injEq] at hdirectory
    subst hdirectory
    rw [List.nil_append] at hplace
    cases place with
    | nil => exact absurd (List.nil_prefix) hplace
    | cons first rest =>
      change (directory (setEntry name _ entries)).at? (first :: rest) = _
      rw [at?_cons_directory, at?_cons_directory, lookup_setEntry]
      by_cases hfirst : first = name
      · subst hfirst
        have hrest : rest ≠ [] := by
          rintro rfl
          exact hplace (List.prefix_refl _)
        rw [if_pos rfl, Option.bind_some, hnew rest hrest]
        cases hlookup : entries.lookup first with
        | none => rfl
        | some node => rw [Option.bind_some, hold node hlookup rest hrest]
      · rw [if_neg hfirst]
  | cons first rest ih =>
    cases root with
    | file content modified => cases hdirectory
    | link target => cases hdirectory
    | directory all =>
      rw [at?_cons_directory] at hdirectory
      obtain ⟨child, hchild, hbelow⟩ := Option.bind_eq_some_iff.1 hdirectory
      obtain ⟨next, others, hnext⟩ := List.exists_cons_of_ne_nil
        (List.append_ne_nil_of_right_ne_nil rest (List.cons_ne_nil name []))
      rw [List.cons_append, hnext, set_cons_cons _ _ _ _ _ hchild, ← hnext]
      cases place with
      | nil => exact absurd (List.nil_prefix) hplace
      | cons other more =>
        rw [at?_cons_directory, at?_cons_directory, lookup_setEntry]
        by_cases hother : other = first
        · subst hother
          have hmore : ¬more <+: rest ++ [name] := fun hprefix =>
            hplace (List.cons_prefix_cons.2 ⟨rfl, hprefix⟩)
          rw [if_pos rfl, hchild, Option.bind_some, Option.bind_some]
          exact ih hbelow hmore
        · rw [if_neg hother]

/-- On the way to something there are directories. -/
theorem exists_directory_of_prefix {dir place : List String} {name : String}
    {entries : List (String × Node)} (hdirectory : root.at? dir = some (.directory entries))
    (hplace : place <+: dir ++ [name]) (hne : place ≠ dir ++ [name]) :
    ∃ entries, root.at? place = some (.directory entries) := by
  obtain ⟨more, hmore⟩ := hplace
  rcases List.eq_nil_or_concat more with rfl | ⟨front, last, rfl⟩
  · exact absurd (by rw [← hmore, List.append_nil]) hne
  · rw [List.concat_eq_append, ← List.append_assoc] at hmore
    obtain ⟨hdir, -⟩ := List.append_inj' hmore rfl
    rw [← hdir, at?_append] at hdirectory
    obtain ⟨node, hnode, hfront⟩ := Option.bind_eq_some_iff.1 hdirectory
    cases node with
    | directory entries => exact ⟨entries, hnode⟩
    | file content modified =>
      cases front with
      | nil => cases hfront
      | cons name rest => cases hfront
    | link target =>
      cases front with
      | nil => cases hfront
      | cons name rest => cases hfront

theorem Seat.other (h : root.Seat names old) (content : Content) (modified : Int)
    {place : List String} (hplace : ¬place <+: names) :
    (root.put names content modified).at? place = root.at? place := by
  obtain ⟨hdirectory, hfree⟩ := h
  exact at?_set_other hdirectory (bare_of_isFile rfl)
    (fun node hnode => bare_of_isFile (hfree node hnode)) hplace

theorem Seat.directory (h : root.Seat names old) {place : List String} (hplace : place <+: names)
    (hne : place ≠ names) : ∃ entries, root.at? place = some (.directory entries) := by
  obtain ⟨hdirectory, -⟩ := h
  exact exists_directory_of_prefix hdirectory hplace hne

/-- Every place is that of the file, or a directory before and after, or holds what it held. -/
theorem Seat.cases (h : root.Seat names old) (content : Content) (modified : Int)
    (place : List String) :
    (place = names ∧ (root.put names content modified).at? place = some (.file content modified)) ∨
    (∃ entries entries', root.at? place = some (.directory entries) ∧
      (root.put names content modified).at? place = some (.directory entries')) ∨
    place ≠ names ∧ (root.put names content modified).at? place = root.at? place := by
  by_cases hself : place = names
  · subst hself
    exact .inl ⟨rfl, h.after content modified⟩
  by_cases hplace : place <+: names
  · obtain ⟨entries, hentries⟩ := h.directory hplace hself
    obtain ⟨node, hnode, hkind⟩ := h.grows content modified _ _ hentries
    cases hkind with
    | directory _ entries' => exact .inr (.inl ⟨entries, entries', hentries, hnode⟩)
  · exact .inr (.inr ⟨hself, h.other content modified hplace⟩)

end Node

namespace FileTree

/-! ### Ways in the tree afterwards -/

/-- From a file no way goes on in any tree. -/
theorem findFrom_of_file {root after : Node} (links : Nat) {place rest : List String} {cause : FileCause}
    {held held' : Content} {time time' : Int} (hbefore : root.at? place.reverse = some (.file held time))
    (hafter : after.at? place.reverse = some (.file held' time'))
    (h : findFrom root links place rest = .error cause) :
    findFrom after links place rest = .error cause := by
  cases rest with
  | nil =>
    rw [findFrom_nil, hbefore] at h
    cases h
  | cons next rest =>
    rw [findFrom_cons_of_file hbefore] at h
    rwa [findFrom_cons_of_file hafter]

section

variable {root : Node} {names : List String} {old : Option Content} (hseat : root.Seat names old)
  (content : Content) (modified : Int)

include hseat

/-- What is a directory stays one, and under its names there stands what stood there, but for the file
and the directories on the way to it. -/
theorem seat_directory {place : List String} {entries : List (String × Node)}
    (h : root.at? place = some (.directory entries)) : ∃ entries',
      (root.put names content modified).at? place = some (.directory entries') ∧
      ∀ name, (place ++ [name] = names ∧ entries'.lookup name = some (.file content modified)) ∨
        (∃ child child', entries.lookup name = some (.directory child) ∧
          entries'.lookup name = some (.directory child')) ∨
        place ++ [name] ≠ names ∧ entries'.lookup name = entries.lookup name := by
  obtain ⟨node, hnode, hkind⟩ := hseat.grows content modified _ _ h
  cases hkind with
  | directory _ entries' =>
    refine ⟨entries', hnode, fun name => ?_⟩
    have hcases := hseat.cases content modified (place ++ [name])
    rw [Node.at?_append_singleton h, Node.at?_append_singleton hnode] at hcases
    exact hcases

theorem findFrom_after (links : Nat) {place rest : List String} {name : String}
    (hself : place.reverse ++ [name] = names) :
    findFrom (root.put names content modified) links (name :: place) rest = .error .notDirectory ∨
      findFrom (root.put names content modified) links (name :: place) rest =
        .ok names.reverse := by
  have hat : (root.put names content modified).at? (name :: place).reverse =
      some (.file content modified) := by
    rw [List.reverse_cons, hself]
    exact hseat.after content modified
  cases rest with
  | nil =>
    right
    rw [findFrom_nil, hat, Option.isSome_some, if_pos rfl, ← hself]
    simp
  | cons next rest =>
    left
    rw [findFrom_cons_of_file hat]

/-- A way that leads nowhere leads nowhere afterwards, or just to the file; for another reason it does so
only where nothing has been before. -/
theorem findFrom_of_seat (links : Nat) (place rest : List String) {cause : FileCause}
    (h : findFrom root links place rest = .error cause) :
    findFrom (root.put names content modified) links place rest = .error cause ∨ cause = .missing ∧
      (findFrom (root.put names content modified) links place rest = .error .notDirectory ∨
        findFrom (root.put names content modified) links place rest = .ok names.reverse) := by
  match rest with
  | [] =>
    by_cases hsome : (root.at? place.reverse).isSome
    · rw [findFrom_nil, if_pos hsome] at h
      cases h
    rw [findFrom_nil, if_neg hsome] at h
    rw [findFrom_nil]
    rcases hseat.cases content modified place.reverse with ⟨hself, hat⟩ | ⟨_, _, hat, -⟩ | ⟨-, hat⟩
    · rw [hat, ← hself, List.reverse_reverse]
      exact .inr ⟨(Except.error.inj h).symm, .inr rfl⟩
    · exact absurd (by rw [hat]; rfl) hsome
    · left
      rw [hat, if_neg hsome, h]
  | name :: rest =>
    cases hplace : root.at? place.reverse with
    | none =>
      rw [findFrom_cons_of_none (by simp [hplace])] at h
      rcases hseat.cases content modified place.reverse with ⟨-, hat⟩ | ⟨_, _, hat, -⟩ | ⟨-, hat⟩
      · rw [findFrom_cons_of_file hat]
        exact .inr ⟨(Except.error.inj h).symm, .inl rfl⟩
      · cases hplace.symm.trans hat
      · rw [findFrom_cons_of_none (by simp [hat, hplace])]
        exact .inl h
    | some node =>
      cases node with
      | file _ _ =>
        obtain ⟨node', hnode', hkind⟩ := hseat.grows content modified _ _ hplace
        cases hkind
        exact .inl (findFrom_of_file links hplace hnode' h)
      | link target =>
        obtain ⟨node', hnode', hkind⟩ := hseat.grows content modified _ _ hplace
        cases hkind
        rw [findFrom_cons_of_none (by simp [hplace])] at h
        rw [findFrom_cons_of_none (by simp [hnode'])]
        exact .inl h
      | directory entries =>
        obtain ⟨entries', hentries', hnames⟩ := seat_directory hseat content modified hplace
        rw [findFrom_cons hplace] at h
        rw [findFrom_cons hentries']
        by_cases hdots : name = ".."
        · rw [if_pos hdots] at h ⊢
          exact findFrom_of_seat links place.tail rest h
        by_cases hsize : maxNameSize < name.utf8ByteSize
        · rw [if_neg hdots, if_pos hsize] at h ⊢
          exact .inl h
        rw [if_neg hdots, if_neg hsize] at h ⊢
        rcases hnames name with ⟨hself, hlater⟩ | ⟨child, child', hlookup, hlater⟩ | ⟨-, hlater⟩
        · rw [hlater]
          rcases hseat.before with ⟨-, hnone⟩ | ⟨_, _, -, hfile⟩
          · rw [← hself, Node.at?_append_singleton hplace] at hnone
            rw [hnone] at h
            exact .inr ⟨(Except.error.inj h).symm, findFrom_after hseat content modified links hself⟩
          · have hname : (name :: place).reverse = names := by rw [List.reverse_cons, hself]
            have hafter : (root.put names content modified).at? (name :: place).reverse =
                some (.file content modified) := by
              rw [hname]
              exact hseat.after content modified
            rw [← hname] at hfile
            have hlookup := hfile
            rw [List.reverse_cons, Node.at?_append_singleton hplace] at hlookup
            rw [hlookup] at h
            exact .inl (findFrom_of_file links hfile hafter h)
        · rw [hlookup] at h
          rw [hlater]
          exact findFrom_of_seat links (name :: place) rest h
        · rw [hlater]
          cases hlookup : entries.lookup name with
          | none =>
            rw [hlookup] at h
            exact .inl h
          | some child =>
            rw [hlookup] at h
            cases child with
            | file _ _ => exact findFrom_of_seat links (name :: place) rest h
            | directory _ => exact findFrom_of_seat links (name :: place) rest h
            | link target =>
              cases links with
              | zero => exact .inl h
              | succ links => exact findFrom_of_seat links _ (target.names ++ rest) h
termination_by (links, rest.length)

end

/-! ### Where writing to a path leads -/

/-- The last name of a path with the directory in which it is looked up. -/
def entryOf (tree : FileTree) (path : Path) :
    Except FileCause (String × List String × List (String × Node)) :=
  match path.names.getLast? with
  | none => .error .isDirectory
  | some name =>
    if name = ".." then .error .isDirectory
    else match tree.find path.parent with
    | .error cause => .error cause
    | .ok dir =>
      match tree.root.at? dir with
      | some (.directory entries) =>
        if maxNameSize < name.utf8ByteSize then .error .nameTooLong else .ok (name, dir, entries)
      | _ => .error .notDirectory

theorem placeToWrite_eq (tree : FileTree) (links : Nat) (path : Path) :
    tree.placeToWrite links path = match tree.entryOf path with
      | .error cause => .error cause
      | .ok (name, dir, entries) =>
        match entries.lookup name, links with
        | none, _ => .ok (dir ++ [name], none)
        | some (.file content _), _ => .ok (dir ++ [name], some content)
        | some (.directory _), _ => .error .isDirectory
        | some (.link _), 0 => .error .tooManyLinks
        | some (.link target), links + 1 => tree.placeToWrite links (Path.join ⟨1, dir⟩ target) := by
  rw [placeToWrite.eq_def, entryOf]
  dsimp only
  split
  · next hlast => rw [hlast]
  · next hlast => simp only [hlast, if_pos]
  · next name hdots hlast =>
    simp only [hlast, if_neg hdots]
    cases tree.find path.parent with
    | error cause => rfl
    | ok dir =>
      dsimp only
      cases tree.root.at? dir with
      | none => rfl
      | some node =>
        cases node with
        | file content modified => rfl
        | link target => rfl
        | directory entries =>
          by_cases hsize : maxNameSize < name.utf8ByteSize
          · simp only [if_pos hsize]
          · simp only [if_neg hsize] <;> rfl

variable {tree : FileTree} {names : List String} {old : Option Content}

theorem entryOf_eq_ok {path : Path} {name : String} {dir : List String}
    {entries : List (String × Node)} : tree.entryOf path = .ok (name, dir, entries) ↔
      path.names.getLast? = some name ∧ name ≠ ".." ∧ tree.find path.parent = .ok dir ∧
        tree.root.at? dir = some (.directory entries) ∧ name.utf8ByteSize ≤ maxNameSize := by
  constructor
  · intro h
    unfold entryOf at h
    split at h
    · cases h
    · next hlast =>
      split at h
      · cases h
      · next hdots =>
        split at h
        · cases h
        · next hdir =>
          split at h
          · next hentries =>
            split at h
            · cases h
            · next hsize =>
              cases h
              exact ⟨hlast, hdots, hdir, hentries, Nat.le_of_not_lt hsize⟩
          · cases h
  · rintro ⟨hlast, hdots, hdir, hentries, hsize⟩
    simp only [entryOf, hlast, if_neg hdots, hdir, hentries, if_neg (Nat.not_lt_of_le hsize)]

/-- Writing leads to a seat. -/
theorem seat_of_placeToWrite {links : Nat} {path : Path}
    (h : tree.placeToWrite links path = .ok (names, old)) : tree.root.Seat names old := by
  induction links using Nat.strongRecOn generalizing path with
  | ind links ih =>
    rw [placeToWrite_eq] at h
    cases hentry : tree.entryOf path with
    | error cause =>
      rw [hentry] at h
      cases h
    | ok entry =>
      obtain ⟨name, dir, entries⟩ := entry
      rw [hentry] at h
      obtain ⟨-, -, -, hdirectory, -⟩ := entryOf_eq_ok.1 hentry
      dsimp only at h
      cases hlookup : entries.lookup name with
      | none =>
        rw [hlookup] at h
        cases h
        have hseat : tree.root.Seat (dir ++ [name]) (held entries name) :=
          .intro hdirectory (by simp [hlookup])
        rwa [held, hlookup] at hseat
      | some node =>
        rw [hlookup] at h
        cases node with
        | file content modified =>
          cases h
          have hseat : tree.root.Seat (dir ++ [name]) (held entries name) :=
            .intro hdirectory (by simp [hlookup, Node.isFile])
          rwa [held, hlookup] at hseat
        | directory below => cases h
        | link target =>
          cases links with
          | zero => cases h
          | succ links => exact ih links (Nat.lt_succ_self links) h

/-! ### Other paths after a file has been written -/

/-- The tree with a file put at some names. -/
abbrev placed (tree : FileTree) (names : List String) (content : Content) (modified : Int) :
    FileTree :=
  tree.set names (some (.file content modified))

theorem find_placed (tree : FileTree) (names : List String) (content : Content) (modified : Int)
    (path : Path) : (tree.placed names content modified).find path =
      match refusal? (tree.absolute path) with
      | some cause => .error cause
      | none => (findFrom (tree.root.put names content modified) maxLinks []
        (tree.absolute path).names).map List.reverse := rfl

section

variable (hseat : tree.root.Seat names old) (content : Content) (modified : Int)

include hseat

theorem find_of_seat_ok {path : Path} {found : List String} (h : tree.find path = .ok found) :
    (tree.placed names content modified).find path = .ok found := by
  rw [find_eq] at h
  rw [find_placed]
  cases hrefusal : refusal? (tree.absolute path) with
  | some cause =>
    rw [hrefusal] at h
    cases h
  | none =>
    rw [hrefusal] at h
    dsimp only at h ⊢
    cases hplace : findFrom tree.root maxLinks [] (tree.absolute path).names with
    | error cause =>
      rw [hplace] at h
      cases h
    | ok place =>
      rw [hplace] at h
      rw [findFrom_of_grows (hseat.grows content modified) _ _ _ hplace]
      exact h

theorem find_of_seat {path : Path} {cause : FileCause} (h : tree.find path = .error cause) :
    (tree.placed names content modified).find path = .error cause ∨ cause = .missing ∧
      ((tree.placed names content modified).find path = .error .notDirectory ∨
        (tree.placed names content modified).find path = .ok names) := by
  rw [find_eq] at h
  rw [find_placed]
  cases hrefusal : refusal? (tree.absolute path) with
  | some cause =>
    rw [hrefusal] at h
    exact .inl h
  | none =>
    rw [hrefusal] at h
    dsimp only at h ⊢
    cases hplace : findFrom tree.root maxLinks [] (tree.absolute path).names with
    | ok place =>
      rw [hplace] at h
      cases h
    | error other =>
      rw [hplace] at h
      cases h
      rcases findFrom_of_seat hseat content modified _ _ _ hplace with
        hsame | ⟨hmissing, hfile | hself⟩
      · rw [hsame]
        exact .inl rfl
      · rw [hfile]
        exact .inr ⟨hmissing, .inl rfl⟩
      · rw [hself]
        exact .inr ⟨hmissing, .inr (congrArg Except.ok (List.reverse_reverse names))⟩

theorem entryOf_of_seat_ok {path : Path} {name : String} {dir : List String}
    {entries : List (String × Node)} (h : tree.entryOf path = .ok (name, dir, entries)) :
    ∃ entries', (tree.placed names content modified).entryOf path = .ok (name, dir, entries') ∧
      ((dir ++ [name] = names ∧ entries'.lookup name = some (.file content modified)) ∨
        (∃ child child', entries.lookup name = some (.directory child) ∧
          entries'.lookup name = some (.directory child')) ∨
        dir ++ [name] ≠ names ∧ entries'.lookup name = entries.lookup name) := by
  obtain ⟨hlast, hdots, hdir, hentries, hsize⟩ := entryOf_eq_ok.1 h
  obtain ⟨entries', hentries', hnames⟩ := seat_directory hseat content modified hentries
  have hfound := find_of_seat_ok hseat content modified hdir
  exact ⟨entries', entryOf_eq_ok.2 ⟨hlast, hdots, hfound, hentries', hsize⟩, hnames name⟩

theorem entryOf_of_seat {path : Path} {cause : FileCause} (h : tree.entryOf path = .error cause) :
    (tree.placed names content modified).entryOf path = .error cause ∨
    (tree.placed names content modified).entryOf path = .error .notDirectory := by
  unfold entryOf at h ⊢
  cases hlast : path.names.getLast? with
  | none =>
    rw [hlast] at h
    exact .inl h
  | some name =>
    rw [hlast] at h
    dsimp only at h ⊢
    by_cases hdots : name = ".."
    · rw [if_pos hdots] at h ⊢
      exact .inl h
    rw [if_neg hdots] at h ⊢
    cases hdir : tree.find path.parent with
    | error other =>
      rw [hdir] at h
      cases h
      rcases find_of_seat hseat content modified hdir with hsame | ⟨-, hfile | hself⟩
      · rw [hsame]
        exact .inl rfl
      · rw [hfile]
        exact .inr rfl
      · have hat : (tree.placed names content modified).root.at? names =
            some (.file content modified) := hseat.after content modified
        rw [hself]
        dsimp only
        rw [hat]
        exact .inr rfl
    | ok dir =>
      rw [hdir] at h
      rw [find_of_seat_ok hseat content modified hdir]
      dsimp only at h ⊢
      rw [show (tree.placed names content modified).root = tree.root.put names content modified
        from rfl]
      rcases hseat.cases content modified dir with ⟨-, hat⟩ | ⟨entries, entries', hbefore, hat⟩ | ⟨-, hat⟩
      · rw [hat]
        exact .inr rfl
      · rw [hbefore] at h
        rw [hat]
        dsimp only at h ⊢
        by_cases hsize : maxNameSize < name.utf8ByteSize
        · rw [if_pos hsize] at h ⊢
          cases h
          exact .inl rfl
        · rw [if_neg hsize] at h
          cases h
      · rw [hat]
        exact .inl h

/-- Writing to a path leads where it led before; what is found there is another content only if it is
the file that has been put there. -/
theorem placeToWrite_of_seat_ok {links : Nat} {path : Path} {place : List String}
    {held : Option Content} (h : tree.placeToWrite links path = .ok (place, held)) :
    (tree.placed names content modified).placeToWrite links path =
      .ok (place, if place = names then some content else held) := by
  induction links using Nat.strongRecOn generalizing path with
  | ind links ih =>
    rw [placeToWrite_eq] at h ⊢
    cases hentry : tree.entryOf path with
    | error cause =>
      rw [hentry] at h
      cases h
    | ok entry =>
      obtain ⟨name, dir, entries⟩ := entry
      obtain ⟨entries', hentry', hlookup⟩ := entryOf_of_seat_ok hseat content modified hentry
      obtain ⟨-, -, -, hentries, -⟩ := entryOf_eq_ok.1 hentry
      rw [hentry] at h
      rw [hentry']
      dsimp only at h ⊢
      rcases hlookup with ⟨hself, hafter⟩ | ⟨child, child', hbefore, hafter⟩ | ⟨hother, hafter⟩
      · have hplace : place = names := by
          have hbefore := hseat.before
          rw [← hself, Node.at?_append_singleton hentries] at hbefore
          rcases hbefore with ⟨-, hnone⟩ | ⟨_, _, -, hfile⟩
          · rw [hnone] at h
            cases h
            exact hself
          · rw [hfile] at h
            cases h
            exact hself
        rw [hafter, hplace, if_pos rfl]
        dsimp only
        rw [hself]
      · rw [hbefore] at h
        cases h
      · rw [hafter]
        cases hchild : entries.lookup name with
        | none =>
          rw [hchild] at h
          cases h
          rw [if_neg hother]
        | some node =>
          rw [hchild] at h
          cases node with
          | directory below => cases h
          | file content modified =>
            cases h
            rw [if_neg hother]
          | link target =>
            cases links with
            | zero => cases h
            | succ links => exact ih links (Nat.lt_succ_self links) h

/-- Where writing is refused it is refused afterwards. -/
theorem placeToWrite_of_seat {links : Nat} {path : Path} {cause : FileCause}
    (h : tree.placeToWrite links path = .error cause) :
    (tree.placed names content modified).placeToWrite links path = .error cause ∨
    (tree.placed names content modified).placeToWrite links path = .error .notDirectory := by
  induction links using Nat.strongRecOn generalizing path with
  | ind links ih =>
    rw [placeToWrite_eq] at h ⊢
    cases hentry : tree.entryOf path with
    | error other =>
      rw [hentry] at h
      cases h
      rcases entryOf_of_seat hseat content modified hentry with hsame | hfile
      · rw [hsame]
        exact .inl rfl
      · rw [hfile]
        exact .inr rfl
    | ok entry =>
      obtain ⟨name, dir, entries⟩ := entry
      obtain ⟨entries', hentry', hlookup⟩ := entryOf_of_seat_ok hseat content modified hentry
      obtain ⟨-, -, -, hentries, -⟩ := entryOf_eq_ok.1 hentry
      rw [hentry] at h
      rw [hentry']
      dsimp only at h ⊢
      rcases hlookup with ⟨hself, -⟩ | ⟨child, child', hbefore, hafter⟩ | ⟨-, hafter⟩
      · have hbefore := hseat.before
        rw [← hself, Node.at?_append_singleton hentries] at hbefore
        rcases hbefore with ⟨-, hnone⟩ | ⟨_, _, -, hfile⟩
        · rw [hnone] at h
          cases h
        · rw [hfile] at h
          cases h
      · rw [hbefore] at h
        rw [hafter]
        exact .inl h
      · rw [hafter]
        cases hchild : entries.lookup name with
        | none =>
          rw [hchild] at h
          cases h
        | some node =>
          rw [hchild] at h
          cases node with
          | file content modified => cases h
          | directory below => exact .inl h
          | link target =>
            cases links with
            | zero => exact .inl h
            | succ links => exact ih links (Nat.lt_succ_self links) h

end

end FileTree
end KotlinAudit
