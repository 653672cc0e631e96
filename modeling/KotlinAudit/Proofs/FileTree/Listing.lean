import KotlinAudit.Proofs.FileTree.Plain
import KotlinAudit.Proofs.Text.Scan
import Mathlib.Data.List.Nodup

/-! The files of a tree in the order in which they are listed: in every directory its files first, then
what lies in its subdirectories, both by name. Each file is listed once, and which of two comes earlier is
settled by their names, so that the order in which a directory holds its entries does not matter. -/
namespace KotlinAudit

def byName {α : Type} (name : α → String) (items : List α) : List α :=
  items.mergeSort fun left right => Text.le (name left) (name right)

/-- Files before directories, both by name. -/
def inOrder {α : Type} (name : α → String) (isDirectory : α → Bool) (items : List α) : List α :=
  (byName name items).filter (!isDirectory ·) ++ (byName name items).filter isDirectory

section InOrder
variable {α β : Type} {name : α → String} {isDirectory : α → Bool}

theorem byName_perm (items : List α) : (byName name items).Perm items :=
  List.mergeSort_perm items _

theorem byName_map (change : β → α) (items : List β) :
    byName name (items.map change) = (byName (name ∘ change) items).map change := by
  unfold byName
  symm
  apply List.map_mergeSort
  intros
  rfl

theorem pairwise_byName (items : List α) :
    (byName name items).Pairwise fun left right => name left ≤ name right := by
  refine (List.pairwise_mergeSort ?_ ?_ items).imp fun hle => (Text.le_iff _ _).1 hle
  · intro first second third
    simp only [Text.le_iff]
    exact le_trans
  · intro first second
    simp only [Bool.or_eq_true, Text.le_iff]
    exact le_total _ _

theorem inOrder_perm (items : List α) : (inOrder name isDirectory items).Perm items :=
  (List.perm_append_comm.trans (List.filter_append_perm isDirectory _)).trans (byName_perm items)

theorem mem_inOrder {items : List α} {item : α} :
    item ∈ inOrder name isDirectory items ↔ item ∈ items := (inOrder_perm items).mem_iff

theorem inOrder_map (change : β → α) (items : List β) :
    inOrder name isDirectory (items.map change) =
      (inOrder (name ∘ change) (isDirectory ∘ change) items).map change := by
  rw [inOrder, byName_map, List.filter_map, List.filter_map, ← List.map_append]
  rfl

end InOrder

namespace Node

/-- What is listed under one name of a directory. -/
structure Share where
  name : String
  isDirectory : Bool
  files : List (List String)

mutual

/-- The names that lead to the files at and below a node, in the order of listing. -/
def files : Node → List (List String)
  | file _ _ => [[]]
  | link _ => []
  | directory entries =>
    (inOrder Share.name Share.isDirectory (shares entries)).flatMap fun share =>
      share.files.map (share.name :: ·)

def shares : List (String × Node) → List Share
  | [] => []
  | (name, node) :: rest => ⟨name, node.isDirectory, files node⟩ :: shares rest

end

/-- The entries of a directory in the order of listing. -/
def listed (entries : List (String × Node)) : List (String × Node) :=
  inOrder Prod.fst (·.2.isDirectory) entries

theorem shares_eq (entries : List (String × Node)) :
    shares entries = entries.map fun entry => ⟨entry.1, entry.2.isDirectory, entry.2.files⟩ := by
  induction entries with
  | nil => rfl
  | cons entry rest ih => rw [shares, ih, List.map_cons]

theorem files_directory (entries : List (String × Node)) :
    (directory entries).files =
      (listed entries).flatMap fun entry => entry.2.files.map (entry.1 :: ·) := by
  rw [files, shares_eq, inOrder_map, List.flatMap_map]
  rfl

variable {entries : List (String × Node)} {node other : Node} {names : List String}

theorem mem_files_directory : names ∈ (directory entries).files ↔
    ∃ entry ∈ entries, ∃ more ∈ entry.2.files, entry.1 :: more = names := by
  simp only [files_directory, List.mem_flatMap, List.mem_map, listed, mem_inOrder]

theorem forall_mem_files {holds : List String → Prop} :
    (∀ names ∈ (directory entries).files, holds names) ↔
      ∀ entry ∈ entries, ∀ more ∈ entry.2.files, holds (entry.1 :: more) := by
  simp only [mem_files_directory]
  constructor
  · intro h entry hentry more hmore
    exact h _ ⟨entry, hentry, more, hmore, rfl⟩
  · rintro h names ⟨entry, hentry, more, hmore, rfl⟩
    exact h entry hentry more hmore

/-- Listed are the names under which a file stands. -/
theorem mem_files (h : node.Plain) :
    names ∈ node.files ↔ ∃ content modified, node.at? names = some (file content modified) := by
  induction node using entries_induction generalizing names with
  | file content modified =>
    cases names with
    | nil => simp [files]
    | cons name rest => simp [files, at?]
  | link target => exact absurd h id
  | directory entries ih =>
    rw [mem_files_directory]
    cases names with
    | nil => simp
    | cons name rest =>
      simp only [List.cons.injEq, Prod.exists, at?_cons_directory, Option.bind_eq_some_iff]
      constructor
      · rintro ⟨key, child, hentry, more, hmore, rfl, rfl⟩
        obtain ⟨content, modified, hfile⟩ := (ih _ hentry (h.entry hentry).2).1 hmore
        exact ⟨content, modified, child, h.lookup_iff.2 hentry, hfile⟩
      · rintro ⟨content, modified, child, hchild, hfile⟩
        have hentry := h.lookup_iff.1 hchild
        exact ⟨name, child, hentry, rest, (ih _ hentry (h.entry hentry).2).2 ⟨content, modified, hfile⟩,
          rfl, rfl⟩

theorem ne_nil_of_mem_files (h : names ∈ (directory entries).files) : names ≠ [] := by
  obtain ⟨entry, -, more, -, rfl⟩ := mem_files_directory.1 h
  exact List.cons_ne_nil _ _

theorem nodup_files (h : node.Plain) : node.files.Nodup := by
  induction node using entries_induction with
  | file content modified => exact List.nodup_singleton []
  | link target => exact List.nodup_nil
  | directory entries ih =>
    rw [files_directory, List.nodup_flatMap]
    constructor
    · intro entry hentry
      have hmem := mem_inOrder.1 hentry
      exact (ih entry hmem (h.entry hmem).2).map fun _ _ => List.tail_eq_of_cons_eq
    · have hdistinct : ((listed entries).map Prod.fst).Nodup :=
        ((inOrder_perm entries).map Prod.fst).nodup_iff.2 h.1
      refine (List.pairwise_map.1 hdistinct).imp fun hne => ?_
      intro names hleft hright
      obtain ⟨more, -, rfl⟩ := List.mem_map.1 hleft
      obtain ⟨rest, -, heq⟩ := List.mem_map.1 hright
      exact hne (List.head_eq_of_cons_eq heq).symm

/-! ### The order of the listing -/

/-- The first of two files comes earlier in a listing, by the names that lead to them. -/
def Earlier : List String → List String → Prop
  | [name], [other] => name < other
  | [_], _ :: _ :: _ => True
  | name :: next :: rest, other :: second :: more =>
    name < other ∨ name = other ∧ Earlier (next :: rest) (second :: more)
  | _, _ => False

theorem Earlier.asymm {names others : List String} (h : Earlier names others) :
    ¬Earlier others names := by
  induction names generalizing others with
  | nil => exact absurd h not_false
  | cons name rest ih =>
    match rest, others with
    | rest, [] => cases rest <;> exact absurd h not_false
    | [], [other] => exact lt_asymm (show name < other from h)
    | [], other :: second :: more => exact not_false
    | next :: rest, [other] => exact absurd h not_false
    | next :: rest, other :: second :: more =>
      rcases h with hlt | ⟨rfl, hbelow⟩
      · rintro (hgt | ⟨rfl, -⟩)
        · exact lt_asymm hlt hgt
        · exact lt_irrefl _ hlt
      · rintro (hgt | ⟨-, hback⟩)
        · exact lt_irrefl _ hgt
        · exact ih hbelow hback

/-- Files are listed before directories, and both by name. -/
theorem pairwise_listed (h : (entries.map Prod.fst).Nodup) :
    (listed entries).Pairwise fun entry other =>
      (entry.2.isDirectory = true → other.2.isDirectory = true) ∧
        (entry.2.isDirectory = other.2.isDirectory → entry.1 < other.1) := by
  have hdistinct : (byName Prod.fst entries).Pairwise fun entry other => entry.1 ≠ other.1 :=
    List.pairwise_map.1 (((byName_perm entries).map Prod.fst).nodup_iff.2 h)
  have hnames : (byName Prod.fst entries).Pairwise fun entry other => entry.1 < other.1 :=
    ((pairwise_byName entries).and hdistinct).imp fun hboth => lt_of_le_of_ne hboth.1 hboth.2
  rw [listed, inOrder, List.pairwise_append]
  refine ⟨?_, ?_, fun entry hentry other hother => ?_⟩
  · refine (hnames.filter _).imp_of_mem fun hentry _ hlt => ⟨fun hdirectory => ?_, fun _ => hlt⟩
    simp [hdirectory] at hentry
  · refine (hnames.filter _).imp_of_mem fun _ hother hlt => ⟨fun _ => ?_, fun _ => hlt⟩
    exact (List.mem_filter.1 hother).2
  · have hfile := (List.mem_filter.1 hentry).2
    have hdirectory := (List.mem_filter.1 hother).2
    refine ⟨fun _ => hdirectory, fun hsame => ?_⟩
    simp [hsame, hdirectory] at hfile

/-- What stands under different names is listed in the order of the entries. -/
theorem earlier_of_listed {entry other : String × Node} {more rest : List String}
    (hkind : entry.2.isDirectory = true → other.2.isDirectory = true)
    (hname : entry.2.isDirectory = other.2.isDirectory → entry.1 < other.1)
    (hmore : more ∈ entry.2.files) (hrest : rest ∈ other.2.files) :
    Earlier (entry.1 :: more) (other.1 :: rest) := by
  obtain ⟨name, node⟩ := entry
  obtain ⟨second, twin⟩ := other
  cases node with
  | link target => cases hmore
  | file content modified =>
    obtain rfl := List.mem_singleton.1 hmore
    cases twin with
    | link target => cases hrest
    | file content modified =>
      obtain rfl := List.mem_singleton.1 hrest
      exact hname rfl
    | directory below =>
      obtain ⟨next, last, rfl⟩ := List.exists_cons_of_ne_nil (ne_nil_of_mem_files hrest)
      exact trivial
  | directory below =>
    cases twin with
    | link target => cases hrest
    | file content modified => cases hkind rfl
    | directory under =>
      obtain ⟨next, last, rfl⟩ := List.exists_cons_of_ne_nil (ne_nil_of_mem_files hmore)
      obtain ⟨first, others, rfl⟩ := List.exists_cons_of_ne_nil (ne_nil_of_mem_files hrest)
      exact .inl (hname rfl)

theorem pairwise_files (h : node.Plain) : node.files.Pairwise Earlier := by
  induction node using entries_induction with
  | file content modified => exact List.pairwise_singleton _ _
  | link target => exact List.Pairwise.nil
  | directory entries ih =>
    rw [files_directory, List.pairwise_flatMap]
    constructor
    · intro entry hentry
      have hmem := mem_inOrder.1 hentry
      have hbelow := ih entry hmem (h.entry hmem).2
      rw [List.pairwise_map]
      refine hbelow.imp_of_mem fun hmore hrest hearlier => ?_
      obtain ⟨name, node⟩ := entry
      cases node with
      | link target => cases hmore
      | file content modified =>
        obtain rfl := List.mem_singleton.1 hmore
        exact absurd hearlier (by cases List.mem_singleton.1 hrest; exact not_false)
      | directory below =>
        obtain ⟨next, last, rfl⟩ := List.exists_cons_of_ne_nil (ne_nil_of_mem_files hmore)
        obtain ⟨first, others, rfl⟩ := List.exists_cons_of_ne_nil (ne_nil_of_mem_files hrest)
        exact .inr ⟨rfl, hearlier⟩
    · refine (pairwise_listed h.1).imp fun hboth names hnames others hothers => ?_
      obtain ⟨more, hmore, rfl⟩ := List.mem_map.1 hnames
      obtain ⟨rest, hrest, rfl⟩ := List.mem_map.1 hothers
      exact earlier_of_listed hboth.1 hboth.2 hmore hrest

/-- Of the files of a kind two nodes list the same ones if the same names lead to them. -/
theorem filter_files_congr (wanted : List String → Bool) (hnode : node.Plain) (hother : other.Plain)
    (h : ∀ names, wanted names = true →
      ((∃ content modified, node.at? names = some (.file content modified)) ↔
        ∃ content modified, other.at? names = some (.file content modified))) :
    node.files.filter wanted = other.files.filter wanted := by
  have hperm : (node.files.filter wanted).Perm (other.files.filter wanted) := by
    rw [List.perm_ext_iff_of_nodup ((nodup_files hnode).filter _) ((nodup_files hother).filter _)]
    intro names
    rw [List.mem_filter, List.mem_filter, mem_files hnode, mem_files hother]
    exact and_congr_left (h names)
  refine List.Perm.eq_of_pairwise (fun names others _ _ hearlier hlater => ?_)
    ((pairwise_files hnode).filter _) ((pairwise_files hother).filter _) hperm
  exact absurd hlater hearlier.asymm

/-! ### Directories that hold the same in another order -/

/-- What a file holds and when it was changed. -/
def held? : Node → Option (Content × Int)
  | file content modified => some (content, modified)
  | _ => none

/-- Nodes that differ at most in the order of entries: the same stands under the same names. -/
def Reordered (node other : Node) : Prop :=
  ∀ names, (node.at? names).map held? = (other.at? names).map held?

theorem Plain.perm {others : List (String × Node)} (h : (directory entries).Plain)
    (hperm : entries.Perm others) : (directory others).Plain :=
  ⟨(hperm.map Prod.fst).nodup_iff.1 h.1, plainEntries_iff.2 fun entry hentry =>
    plainEntries_iff.1 h.2 entry (hperm.mem_iff.2 hentry)⟩

/-- The entries of one directory may stand in any order. -/
theorem reordered_of_perm {others : List (String × Node)} (h : (directory entries).Plain)
    (hperm : entries.Perm others) : Reordered (directory entries) (directory others) := by
  have hlookup : ∀ name, entries.lookup name = others.lookup name := by
    intro name
    ext child
    rw [h.lookup_iff, (h.perm hperm).lookup_iff, hperm.mem_iff]
  intro names
  cases names with
  | nil => rfl
  | cons name rest => rw [at?_cons_directory, at?_cons_directory, hlookup]

theorem exists_file_iff {found : Option Node} :
    (∃ content modified, found = some (.file content modified)) ↔
      ∃ held, found.map held? = some (some held) := by
  constructor
  · rintro ⟨content, modified, rfl⟩
    exact ⟨_, rfl⟩
  · rintro ⟨⟨content, modified⟩, h⟩
    obtain ⟨node, rfl, hnode⟩ := Option.map_eq_some_iff.1 h
    cases node with
    | file held time =>
      cases hnode
      exact ⟨_, _, rfl⟩
    | directory entries => cases hnode
    | link target => cases hnode

/-- Reordering changes nothing about the listing. -/
theorem files_congr (hnode : node.Plain) (hother : other.Plain) (h : Reordered node other) :
    node.files = other.files := by
  have hall : ∀ files : List (List String), files.filter (fun _ => true) = files := fun files =>
    List.filter_eq_self.2 fun _ _ => rfl
  rw [← hall node.files, ← hall other.files]
  refine filter_files_congr _ hnode hother fun names _ => ?_
  rw [exists_file_iff, exists_file_iff, h names]

end Node
end KotlinAudit
