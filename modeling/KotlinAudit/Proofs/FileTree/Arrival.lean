import KotlinAudit.Proofs.FileTree.Edits
import KotlinAudit.Proofs.FileTree.Making
import KotlinAudit.Proofs.FileTree.Shelf

/-! What is written to a path is found there. Writing follows a chain of links one after the other and
finding goes the whole way at once, but they come to the same place, unless the way has too many links. -/
namespace KotlinAudit.FileTree

open Node (Grows SameKind)

/-! ### Links that are left -/

/-- A way that does not need too many links is the same with more of them. -/
theorem findFrom_add_links {root : Node} (links more : Nat) (place names : List String)
    (h : findFrom root links place names ≠ .error .tooManyLinks) :
    findFrom root (links + more) place names = findFrom root links place names := by
  match names with
  | [] => rw [findFrom_nil, findFrom_nil]
  | name :: rest =>
    cases goes root place name with
    | ends cause _ hends => rw [hends, hends]
    | moves next _ hmoves =>
      rw [hmoves root (.refl root)] at h
      rw [hmoves root (.refl root), hmoves root (.refl root)]
      exact findFrom_add_links links more next rest h
    | follows target hnone hfollows =>
      cases links with
      | zero => exact absurd (hnone root (.refl root) rest) h
      | succ links =>
        rw [hfollows root (.refl root)] at h
        rw [Nat.add_right_comm, hfollows root (.refl root), hfollows root (.refl root)]
        exact findFrom_add_links links more _ (target.names ++ rest) h
termination_by (links, names.length)

/-- Two ways that do not need too many links are the same. -/
theorem findFrom_eq_of_ne {root : Node} {links other : Nat} {place names : List String}
    (h : findFrom root links place names ≠ .error .tooManyLinks)
    (hother : findFrom root other place names ≠ .error .tooManyLinks) :
    findFrom root links place names = findFrom root other place names := by
  rcases Nat.le_total links other with hle | hle
  · obtain ⟨more, rfl⟩ := Nat.exists_eq_add_of_le hle
    exact (findFrom_add_links links more place names h).symm
  · obtain ⟨more, rfl⟩ := Nat.exists_eq_add_of_le hle
    exact findFrom_add_links other more place names hother

/-- A way whose first part needs too many links needs too many. -/
theorem findFrom_append_of_tooMany {root : Node} (links : Nat) (place names more : List String)
    (h : findFrom root links place names = .error .tooManyLinks) :
    findFrom root links place (names ++ more) = .error .tooManyLinks := by
  match names with
  | [] =>
    rw [findFrom_nil] at h
    split at h <;> cases h
  | name :: rest =>
    rw [List.cons_append]
    cases goes root place name with
    | ends cause hcause hends =>
      cases (hends links rest).symm.trans h
      simp at hcause
    | moves next _ hmoves =>
      rw [hmoves root (.refl root)] at h ⊢
      exact findFrom_append_of_tooMany links next rest more h
    | follows target hnone hfollows =>
      cases links with
      | zero => exact hnone root (.refl root) (rest ++ more)
      | succ links =>
        rw [hfollows root (.refl root)] at h ⊢
        rw [← List.append_assoc]
        exact findFrom_append_of_tooMany links _ (target.names ++ rest) more h
termination_by (links, names.length)

/-! ### Places -/

/-- The place that a way comes to has plain names. -/
theorem plainNames_of_findFrom {root : Node} (links : Nat) (place names : List String)
    {found : List String} (hplace : PlainNames place)
    (h : findFrom root links place names = .ok found) : PlainNames found := by
  match names with
  | [] =>
    exact eq_of_findFrom_nil h ▸ hplace
  | name :: rest =>
    cases goes root place name with
    | ends cause _ hends => cases (hends links rest).symm.trans h
    | moves next hnext hmoves =>
      rw [hmoves root (.refl root)] at h
      refine plainNames_of_findFrom links next rest ?_ h
      rcases hnext with rfl | ⟨rfl, hname⟩
      · exact fun other hother => hplace other (List.mem_of_mem_tail hother)
      · exact List.forall_mem_cons.2 ⟨hname, hplace⟩
    | follows target hnone hfollows =>
      cases links with
      | zero => cases (hnone root (.refl root) rest).symm.trans h
      | succ links =>
        rw [hfollows root (.refl root)] at h
        refine plainNames_of_findFrom links _ (target.names ++ rest) ?_ h
        split
        · exact fun other hother => absurd hother List.not_mem_nil
        · exact hplace
termination_by (links, names.length)

/-- Below a directory that is named without links the way goes on from it. -/
theorem findFrom_below {root : Node} (links : Nat) {dir : List String}
    {entries : List (String × Node)} (hdir : PlainNames dir)
    (hentries : root.at? dir = some (.directory entries)) (more : List String) :
    findFrom root links [] (dir ++ more) = findFrom root links dir.reverse more := by
  have hstart : root.at? (([] : List String).reverse ++ dir) = some (.directory entries) := hentries
  have hlink : ∀ target, Node.directory entries ≠ .link target := fun target h => by cases h
  have hwalk := findFrom_append_of_at? links hdir hlink hstart more
  rwa [List.append_nil] at hwalk

/-- The target of a link is seen from the directory in which the link stands. -/
theorem findFrom_join {root : Node} (links : Nat) {dir : List String}
    {entries : List (String × Node)} (hdir : PlainNames dir)
    (hentries : root.at? dir = some (.directory entries)) {target : Path} :
    findFrom root links [] (Path.join ⟨1, dir⟩ target).names =
      findFrom root links (if target.isAbsolute then [] else dir.reverse) target.names := by
  unfold Path.join
  split
  · rfl
  · exact findFrom_below links hdir hentries target.names

/-! ### Writing and finding -/

variable {tree : FileTree} {names : List String} {old : Option Content}

/-- A file in the directory that a way has come to. -/
theorem findFrom_file {root : Node} (links : Nat) {dir : List String} {name : String}
    {entries : List (String × Node)} {content : Content} {modified : Int}
    (hentries : root.at? dir = some (.directory entries))
    (hfile : root.at? (dir ++ [name]) = some (.file content modified)) (hdots : name ≠ "..")
    (hsize : name.utf8ByteSize ≤ maxNameSize) :
    findFrom root links dir.reverse [name] = .ok (dir ++ [name]).reverse := by
  have hplace : root.at? dir.reverse.reverse = some (.directory entries) := by
    rwa [List.reverse_reverse]
  rw [Node.at?_append_singleton hentries] at hfile
  rw [findFrom_cons hplace, if_neg hdots, if_neg (Nat.not_lt_of_le hsize), hfile]
  dsimp only
  rw [findFrom_nil, List.reverse_cons, List.reverse_reverse, Node.at?_append_singleton hentries,
    hfile, List.reverse_append]
  rfl

theorem Grows.directory {before after : Node} (h : Grows before after) {place : List String}
    {entries : List (String × Node)} (hentries : before.at? place = some (.directory entries)) :
    ∃ entries', after.at? place = some (.directory entries') := by
  obtain ⟨node, hnode, hkind⟩ := h _ _ hentries
  cases hkind with
  | directory _ entries' => exact ⟨entries', hnode⟩

/-- Where writing to a path leads, there a file is found, also when it has been written. -/
theorem findFrom_of_placeToWrite {after : Node} (hafter : Grows tree.root after) {links : Nat}
    {path : Path} (hpath : path.isAbsolute) (h : tree.placeToWrite links path = .ok (names, old))
    {content : Content} {modified : Int} (hfile : after.at? names = some (.file content modified))
    {budget : Nat} (hbudget : findFrom tree.root budget [] path.names ≠ .error .tooManyLinks) :
    findFrom after budget [] path.names = .ok names.reverse := by
  induction links using Nat.strongRecOn generalizing path budget with
  | ind links ih =>
    rw [placeToWrite_eq] at h
    cases hentry : tree.entryOf path with
    | error cause =>
      rw [hentry] at h
      cases h
    | ok entry =>
      obtain ⟨name, dir, entries⟩ := entry
      obtain ⟨hlast, hdots, hdir, hentries, hsize⟩ := entryOf_eq_ok.1 hentry
      obtain ⟨-, hplace⟩ := place_of_find hdir
      have hparent : tree.absolute path.parent = path.parent := absolute_of_isAbsolute hpath
      have hsplit : path.names = path.parent.names ++ [name] := by
        obtain ⟨front, hfront⟩ := List.getLast?_eq_some_iff.1 hlast
        rw [Path.parent, hfront, List.dropLast_concat]
      rw [hparent] at hplace
      -- the way to the directory is the same with the links that finding may follow
      rw [hsplit] at hbudget ⊢
      have hfew : findFrom tree.root budget [] path.parent.names ≠ .error .tooManyLinks :=
        fun htoo => hbudget (findFrom_append_of_tooMany budget [] _ [name] htoo)
      have hmany : findFrom tree.root maxLinks [] path.parent.names ≠ .error .tooManyLinks := by
        rw [hplace]
        rintro ⟨⟩
      have hreached := (findFrom_eq_of_ne hfew hmany).trans hplace
      obtain ⟨left, hleft⟩ := exists_left budget [] path.parent.names hreached
      rw [hleft tree.root (.refl _)] at hbudget
      rw [hleft after hafter]
      obtain ⟨entries', hentries'⟩ := Grows.directory hafter hentries
      have hseat : names = dir ++ [name] → findFrom after left dir.reverse [name] =
          .ok names.reverse := by
        rintro rfl
        exact findFrom_file left hentries' hfile hdots hsize
      rw [hentry] at h
      dsimp only at h
      cases hchild : entries.lookup name with
      | none =>
        rw [hchild] at h
        cases h
        exact hseat rfl
      | some child =>
        rw [hchild] at h
        cases child with
        | file content modified =>
          cases h
          exact hseat rfl
        | directory entries => cases h
        | link target =>
          cases links with
          | zero => cases h
          | succ links =>
            obtain ⟨node, hnode, hkind⟩ := hafter (dir ++ [name]) (.link target)
              (by rw [Node.at?_append_singleton hentries, hchild])
            cases hkind
            rw [Node.at?_append_singleton hentries'] at hnode
            have hplace' : tree.root.at? dir.reverse.reverse = some (.directory entries) := by
              rwa [List.reverse_reverse]
            have hplace'' : after.at? dir.reverse.reverse = some (.directory entries') := by
              rwa [List.reverse_reverse]
            rw [findFrom_cons hplace', if_neg hdots, if_neg (Nat.not_lt_of_le hsize),
              hchild] at hbudget
            rw [findFrom_cons hplace'', if_neg hdots, if_neg (Nat.not_lt_of_le hsize), hnode]
            cases left with
            | zero => exact absurd rfl hbudget
            | succ left =>
              dsimp only at hbudget ⊢
              rw [List.append_nil] at hbudget ⊢
              have hplain : PlainNames dir := by
                have hfound := plainNames_of_findFrom maxLinks [] _ (List.forall_mem_nil _) hplace
                exact fun other hother => hfound other (List.mem_reverse.2 hother)
              rw [← findFrom_join left hplain hentries] at hbudget
              rw [← findFrom_join left hplain hentries']
              exact ih links (Nat.lt_succ_self links) (Path.isAbsolute_join rfl) h hbudget

variable {path : Path}

/-- A way to a file of the tree or of a tree that has grown is the way on which it is written. -/
theorem find_of_target {after : FileTree} (hhere : tree.here.isAbsolute)
    (hsame : after.here = tree.here) (hgrows : Grows tree.root after.root)
    (h : tree.target path = .ok (names, old)) (hlinks : tree.find path ≠ .error .tooManyLinks)
    {content : Content} {modified : Int}
    (hfile : after.root.at? names = some (.file content modified)) : after.find path = .ok names := by
  have habsolute : after.absolute path = tree.absolute path := by rw [absolute, absolute, hsame]
  unfold target at h
  split at h
  · cases h
  · next hpath =>
    rw [find_eq, hpath] at hlinks
    have hbudget : findFrom tree.root maxLinks [] (tree.absolute path).names ≠
        .error .tooManyLinks := by
      intro htoo
      exact hlinks (by rw [htoo]; rfl)
    have hplace := findFrom_of_placeToWrite hgrows (isAbsolute_absolute hhere path) h hfile hbudget
    rw [← habsolute] at hpath hplace
    rw [find_of_place hpath hplace, List.reverse_reverse]

/-- What is written to a path is found there. -/
theorem find_edited {edit : Edit} (hhere : tree.here.isAbsolute)
    (h : tree.target edit.path = .ok (names, old))
    (hlinks : tree.find edit.path ≠ .error .tooManyLinks) :
    (tree.edited edit).find edit.path = .ok names := by
  refine find_of_target hhere ?_ (tree.grows_edited edit) h hlinks (at?_edited h)
  rw [edited_of_ok h]
  rfl

/-- What is found at a path is what is written there. -/
theorem eq_of_target_of_find {place : List String} (hhere : tree.here.isAbsolute)
    (h : tree.target path = .ok (names, old)) (hfound : tree.find path = .ok place) :
    place = names := by
  have hlinks : tree.find path ≠ .error .tooManyLinks := fun htoo => by cases hfound.symm.trans htoo
  have hseat := seat_of_target h
  have hgrows : Grows tree.root (tree.placed names (.text "") 0).root := hseat.grows _ _
  have hwritten : (tree.placed names (.text "") 0).find path = .ok names :=
    find_of_target hhere rfl hgrows h hlinks (hseat.after _ _)
  have hkept := find_of_seat_ok hseat (.text "") 0 hfound
  exact Except.ok.inj (hkept.symm.trans hwritten)

/-- A file that is written although it is there already is found there. -/
theorem find_of_target_some {content : Content} (hhere : tree.here.isAbsolute)
    (h : tree.target path = .ok (names, some content))
    (hlinks : tree.find path ≠ .error .tooManyLinks) : tree.find path = .ok names := by
  rcases (seat_of_target h).before with ⟨hnone, -⟩ | ⟨held, modified, -, hfile⟩
  · cases hnone
  · exact find_of_target hhere rfl (.refl _) h hlinks hfile

end KotlinAudit.FileTree
