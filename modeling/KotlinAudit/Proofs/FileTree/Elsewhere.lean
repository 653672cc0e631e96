import KotlinAudit.Proofs.FileTree.Deleting
import KotlinAudit.Proofs.FileTree.Listing

/-! What a tree without links shows elsewhere than at a file that is written. The tree stays one without
links, and every path that ends with another name is answered as before: with the same file, with
something that is no file, or with nothing. -/
namespace KotlinAudit

open KotlinAudit.Path (ProperName)

namespace Node

variable {root new : Node} {entries : List (String × Node)} {dir names : List String} {name : String}
  {old : Option Content}

/-- A plain node stays plain when an entry is set in it. -/
theorem Plain.setEntry (h : (directory entries).Plain) (hname : ProperName name ∧ name ≠ "..")
    (hnew : new.Plain) : (directory (setEntry name (some new) entries)).Plain := by
  have hnodup := nodup_setEntry h.1 name (some new)
  refine ⟨hnodup, plainEntries_iff.2 fun entry hentry => ?_⟩
  have hlookup := Keyed.lookup_of_mem hnodup hentry
  rw [lookup_setEntry] at hlookup
  split_ifs at hlookup with hsame
  · cases hlookup
    exact ⟨hsame ▸ hname, hnew⟩
  · exact h.entry (h.lookup_iff.1 hlookup)

theorem Plain.set (h : root.Plain) (hname : ProperName name ∧ name ≠ "..") (hnew : new.Plain)
    (hdirectory : root.at? dir = some (directory entries)) :
    (root.set (some new) (dir ++ [name])).Plain := by
  induction dir generalizing root with
  | nil =>
    cases hdirectory
    exact h.setEntry hname hnew
  | cons first rest ih =>
    cases root with
    | file content modified => cases hdirectory
    | link target => cases hdirectory
    | directory all =>
      rw [at?_cons_directory] at hdirectory
      obtain ⟨child, hchild, hbelow⟩ := Option.bind_eq_some_iff.1 hdirectory
      obtain ⟨hfirst, hplain⟩ := h.entry (h.lookup_iff.1 hchild)
      obtain ⟨next, others, hnext⟩ := List.exists_cons_of_ne_nil
        (List.append_ne_nil_of_right_ne_nil rest (List.cons_ne_nil name []))
      rw [List.cons_append, hnext, set_cons_cons _ _ _ _ _ hchild, ← hnext]
      exact h.setEntry hfirst (ih hplain hbelow)

theorem Seat.plain (hseat : root.Seat names old) (h : root.Plain)
    (hname : ∀ name, names.getLast? = some name → ProperName name ∧ name ≠ "..") (content : Content)
    (modified : Int) : (root.put names content modified).Plain := by
  obtain ⟨hdirectory, -⟩ := hseat
  exact h.set (hname _ List.getLast?_concat) trivial hdirectory

/-- Everywhere else there is no other file afterwards. -/
theorem Seat.held_other (hseat : root.Seat names old) (content : Content) (modified : Int)
    {place : List String} (h : place ≠ names) :
    ((root.put names content modified).at? place).map held? = (root.at? place).map held? := by
  rcases hseat.cases content modified place with ⟨hself, -⟩ | ⟨_, _, hbefore, hafter⟩ | ⟨-, hsame⟩
  · exact absurd hself h
  · rw [hbefore, hafter]
    rfl
  · rw [hsame]

end Node

namespace FileTree

variable {tree : FileTree} {path : Path} {place names : List String} {old : Option Content}

/-- Without links the last step of a way to a file leads to the name it is made by. -/
theorem head?_of_findFrom (hplain : tree.root.Plain) {links : Nat} {dir place : List String}
    {last : String} (h : findFrom tree.root links dir [last] = .ok place) {content : Content}
    {modified : Int} (hfile : tree.root.at? place.reverse = some (.file content modified)) :
    place.head? = some last := by
  obtain ⟨entries, hentries⟩ := exists_directory_of_findFrom h
  rw [findFrom_cons hentries] at h
  split_ifs at h with hdots hsize
  · -- two dots lead to a directory
    obtain rfl := eq_of_findFrom_nil h
    cases dir with
    | nil => cases hentries.symm.trans hfile
    | cons first rest =>
      rw [List.reverse_cons, Node.at?_append, show rest.reverse = (first :: rest).tail.reverse from rfl,
        hfile] at hentries
      cases hentries
  · have hat := Node.at?_append_singleton hentries last
    cases hlookup : entries.lookup last with
    | none =>
      rw [hlookup] at h
      cases h
    | some node =>
      rw [hlookup] at h hat
      cases node with
      | file content modified => rw [← eq_of_findFrom_nil h, List.head?_cons]
      | directory below => rw [← eq_of_findFrom_nil h, List.head?_cons]
      | link target => exact absurd rfl ((hplain.at? hat).1.ne_link target)

/-- A file that is found without links stands under the last name of its path. -/
theorem getLast?_of_find (hplain : tree.root.Plain) (h : tree.find path = .ok place)
    {content : Content} {modified : Int} (hfile : tree.root.at? place = some (.file content modified)) :
    place.getLast? = (tree.absolute path).names.getLast? := by
  obtain ⟨-, hfound⟩ := place_of_find h
  rcases List.eq_nil_or_concat (tree.absolute path).names with hnil | ⟨front, last, hlast⟩
  · rw [hnil] at hfound ⊢
    rw [List.reverse_eq_nil_iff.1 (eq_of_findFrom_nil hfound).symm]
  · rw [hlast, List.concat_eq_append] at hfound
    obtain ⟨dir, hdir⟩ := exists_of_findFrom_append _ _ _ _ hfound
    obtain ⟨left, hleft⟩ := findFrom_append _ _ _ [last] hdir
    rw [hleft] at hfound
    rw [hlast, List.concat_eq_append, List.getLast?_concat, ← List.head?_reverse]
    exact head?_of_findFrom hplain hfound (by rwa [List.reverse_reverse])

/-- Writing without links leads to the last name of the path. -/
theorem getLast?_of_target (hplain : tree.root.Plain) (h : tree.target path = .ok (names, old)) :
    names.getLast? = (tree.absolute path).names.getLast? := by
  unfold target at h
  split at h
  · cases h
  · rw [placeToWrite_eq] at h
    cases hentry : tree.entryOf (tree.absolute path) with
    | error cause =>
      rw [hentry] at h
      cases h
    | ok entry =>
      obtain ⟨name, dir, entries⟩ := entry
      obtain ⟨hlast, -, -, hentries, -⟩ := entryOf_eq_ok.1 hentry
      have hat := Node.at?_append_singleton hentries name
      rw [hentry] at h
      dsimp only at h
      cases hlookup : entries.lookup name with
      | none =>
        rw [hlookup] at h
        cases h
        rw [List.getLast?_concat, hlast]
      | some node =>
        rw [hlookup] at h hat
        cases node with
        | file content modified =>
          cases h
          rw [List.getLast?_concat, hlast]
        | directory below => cases h
        | link target => exact absurd rfl ((hplain.at? hat).1.ne_link target)

/-! ### Answers -/

/-- What a tree shows at a path: nothing, something that is no file, or a file with what it holds. -/
def shown (tree : FileTree) (path : Path) : Except FileError (Option (Option (Content × Int))) :=
  (tree.node? path).map (Option.map Node.held?)

theorem shown_of_find (h : tree.find path = .ok place) :
    tree.shown path = .ok ((tree.root.at? place).map Node.held?) := by
  rw [shown, node?, node_of_find h]
  cases tree.root.at? place <;> rfl

theorem shown_of_error {cause : FileCause} (h : tree.find path = .error cause) :
    tree.shown path = if cause = .nameTooLong then .error ⟨cause, path⟩ else .ok none := by
  have hnode : tree.node path = .error ⟨cause, path⟩ := by simp only [FileTree.node, h]
  rw [shown, node?, hnode]
  dsimp only
  split <;> rfl

theorem hasFile_eq_shown (tree : FileTree) (path : Path) :
    tree.hasFile path = (tree.shown path).map (·.any Option.isSome) := by
  rw [hasFile, shown]
  cases tree.node? path with
  | error error => rfl
  | ok found =>
    cases found with
    | none => rfl
    | some node => cases node <;> rfl

theorem content_eq_shown (tree : FileTree) (path : Path) :
    (tree.content path).toOption = (tree.shown path).toOption.join.join.map Prod.fst := by
  rw [content, shown, node?]
  cases tree.node path with
  | error error =>
    dsimp only
    split <;> rfl
  | ok node => cases node <;> rfl

/-- What is found elsewhere is no other file when a file is put into a tree. -/
theorem shown_placed (hseat : tree.root.Seat names old) {content : Content} {modified : Int}
    (hafter : (tree.placed names content modified).root.Plain)
    (h : (tree.absolute path).names.getLast? ≠ names.getLast?) :
    (tree.placed names content modified).shown path = tree.shown path := by
  have hat : (tree.placed names content modified).root.at? names = some (.file content modified) :=
    hseat.after content modified
  have habsolute : (tree.placed names content modified).absolute path = tree.absolute path := rfl
  cases hfind : tree.find path with
  | ok place =>
    have hlater := find_of_seat_ok hseat content modified hfind
    rw [shown_of_find hfind, shown_of_find hlater]
    by_cases hself : place = names
    · subst hself
      have hlast := getLast?_of_find hafter hlater hat
      rw [habsolute] at hlast
      exact absurd hlast.symm h
    · exact congrArg Except.ok (hseat.held_other content modified hself)
  | error cause =>
    rw [shown_of_error hfind]
    rcases find_of_seat hseat content modified hfind with hsame | ⟨rfl, hfile | hself⟩
    · rw [shown_of_error hsame]
    · rw [shown_of_error hfile]
      rfl
    · have hlast := getLast?_of_find hafter hself hat
      rw [habsolute] at hlast
      exact absurd hlast.symm h

/-! ### Edits -/

variable {edit : Edit}

theorem plain_edited (hplain : tree.root.Plain) {name : String} (hname : ProperName name ∧ name ≠ "..")
    (hlast : (tree.absolute edit.path).names.getLast? = some name) :
    (tree.edited edit).root.Plain := by
  cases hedit : tree.target edit.path with
  | error cause =>
    rw [edited_of_error hedit]
    exact hplain
  | ok found =>
    obtain ⟨names, old⟩ := found
    have hnames := getLast?_of_target hplain hedit
    rw [edited_of_ok hedit]
    refine (seat_of_target hedit).plain hplain (fun other hother => ?_) _ _
    rw [hnames, hlast] at hother
    cases hother
    exact hname

/-- An edit shows in no path with another last name. -/
theorem shown_edited (hplain : tree.root.Plain) (hafter : (tree.edited edit).root.Plain)
    (h : (tree.absolute path).names.getLast? ≠ (tree.absolute edit.path).names.getLast?) :
    (tree.edited edit).shown path = tree.shown path := by
  cases hedit : tree.target edit.path with
  | error cause => rw [edited_of_error hedit]
  | ok found =>
    obtain ⟨names, old⟩ := found
    rw [edited_of_ok hedit] at hafter ⊢
    refine shown_placed (seat_of_target hedit) hafter ?_
    rwa [getLast?_of_target hplain hedit]

/-- A directory that stands in the tree stands in the same place afterwards. -/
theorem exists_directory_edited {entries : List (String × Node)}
    (h : tree.node path = .ok (.directory entries)) (edit : Edit) :
    ∃ entries' place, (tree.edited edit).node path = .ok (.directory entries') ∧
      tree.root.at? place = some (.directory entries) ∧
      (tree.edited edit).root.at? place = some (.directory entries') := by
  obtain ⟨hpath, place, hplace, hentries⟩ := exists_place_of_node h
  have hgrows := tree.grows_edited edit
  obtain ⟨entries', hafter⟩ := Grows.directory hgrows hentries
  refine ⟨entries', place.reverse, node_of_place place ?_ ?_ hafter, hentries, hafter⟩
  · rwa [absolute_edited]
  · rw [absolute_edited]
    exact findFrom_of_grows hgrows _ _ _ hplace

/-- Without links an edit does not change what paths are resolved to. -/
theorem resolve_edited (hplain : tree.root.Plain) (hafter : (tree.edited edit).root.Plain)
    (path : Path) : (tree.edited edit).resolve path = tree.resolve path := by
  by_cases hnul : refusal? path = some .nul
  · rw [resolve, resolve, if_pos hnul, if_pos hnul]
  · rw [resolve_of_straight hnul (linkless_of_plain hafter path).way,
      resolve_of_straight hnul (linkless_of_plain hplain path).way, absolute_edited]

theorem held_edited (hplain : tree.root.Plain)
    (h : place.getLast? ≠ (tree.absolute edit.path).names.getLast?) :
    ((tree.edited edit).root.at? place).map Node.held? = (tree.root.at? place).map Node.held? := by
  cases hedit : tree.target edit.path with
  | error cause => rw [edited_of_error hedit]
  | ok found =>
    obtain ⟨names, old⟩ := found
    rw [edited_of_ok hedit]
    refine (seat_of_target hedit).held_other _ _ ?_
    rintro rfl
    exact h (getLast?_of_target hplain hedit)

end FileTree
end KotlinAudit
