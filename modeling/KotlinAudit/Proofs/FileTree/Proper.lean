import KotlinAudit.FileTree.Basic
import KotlinAudit.Proofs.Path

/-! Trees whose entries and links have proper names. Resolving a path in such a tree leads to a proper
path, whatever links are met on the way. -/
namespace KotlinAudit

open KotlinAudit.Path (ProperName)

namespace Node

mutual

/-- A node with proper names of entries and in the targets of links. -/
def Proper : Node → Prop
  | file _ _ => True
  | link target => target.Proper
  | directory entries => ProperEntries entries

def ProperEntries : List (String × Node) → Prop
  | [] => True
  | (name, node) :: rest => ProperName name ∧ Proper node ∧ ProperEntries rest

end

theorem ProperEntries.lookup {entries : List (String × Node)} (h : ProperEntries entries)
    {name : String} {node : Node} (hnode : entries.lookup name = some node) : node.Proper := by
  induction entries with
  | nil => cases hnode
  | cons entry rest ih =>
    obtain ⟨other, child⟩ := entry
    obtain ⟨-, hchild, hrest⟩ := h
    rw [List.lookup_cons] at hnode
    split at hnode
    · cases hnode
      exact hchild
    · exact ih hrest hnode

theorem Proper.at? {node : Node} (h : node.Proper) {names : List String} {found : Node}
    (hfound : node.at? names = some found) : found.Proper := by
  induction names generalizing node with
  | nil =>
    cases hfound
    exact h
  | cons name rest ih =>
    cases node with
    | file content modified => cases hfound
    | link target => cases hfound
    | directory entries =>
      rw [Node.at?] at hfound
      cases hchild : entries.lookup name with
      | none =>
        rw [hchild] at hfound
        cases hfound
      | some child =>
        rw [hchild] at hfound
        exact ih (ProperEntries.lookup h hchild) hfound

end Node

namespace FileTree

/-- A tree with proper names that is worked on from a proper path. -/
structure Proper (tree : FileTree) : Prop where
  root : tree.root.Proper
  here : tree.here.Proper

theorem Proper.node {tree : FileTree} (h : tree.Proper) {path : Path} {node : Node}
    (hnode : tree.node path = .ok node) : node.Proper := by
  unfold FileTree.node at hnode
  split at hnode
  · cases hnode
  · split at hnode
    · next hat =>
      cases hnode
      exact h.root.at? hat
    · cases hnode

/-- Names that can all stand in directories. -/
abbrev ProperNames (names : List String) : Prop := ∀ name ∈ names, ProperName name

theorem withoutDots_subset (names : List String) : withoutDots names ⊆ names := by
  have h : ∀ names place : List String,
      names.foldl (fun place name => if name = ".." then place.tail else name :: place) place ⊆
        place ++ names := by
    intro names
    induction names with
    | nil => intro place; simp
    | cons name rest ih =>
      intro place
      rw [List.foldl_cons]
      refine List.Subset.trans (ih _) ?_
      split
      · exact List.append_subset.2 ⟨fun other hother =>
          List.mem_append_left _ (List.mem_of_mem_tail hother),
          fun other hother => List.mem_append_right _ (List.mem_cons_of_mem name hother)⟩
      · intro other hother
        simp only [List.cons_append, List.mem_cons, List.mem_append] at hother ⊢
        exact or_left_comm.1 hother
  intro name hname
  simpa using h names [] (List.mem_reverse.1 hname)

/-- What is known of links is a proper place. -/
def ProperKnown (known : List (List String × Option (List String))) : Prop :=
  ∀ entry ∈ known, ∀ place, entry.2 = some place → ProperNames place

theorem ProperKnown.put {known : List (List String × Option (List String))} (h : ProperKnown known)
    (link : List String) {found : Option (List String)}
    (hfound : ∀ place, found = some place → ProperNames place) :
    ProperKnown (Keyed.put link found known) := by
  induction known with
  | nil =>
    intro entry hentry
    rw [List.mem_singleton.1 hentry]
    exact hfound
  | cons first rest ih =>
    obtain ⟨other, old⟩ := first
    have hrest : ProperKnown rest := fun entry hentry => h entry (List.mem_cons_of_mem _ hentry)
    rw [Keyed.put]
    split
    · intro entry hentry
      rcases List.mem_cons.1 hentry with rfl | hlater
      · exact hfound
      · exact hrest entry hlater
    · intro entry hentry
      rcases List.mem_cons.1 hentry with rfl | hlater
      · exact h _ List.mem_cons_self
      · exact ih hrest entry hlater

theorem mem_of_lookup {α β : Type} [BEq α] [LawfulBEq α] {pairs : List (α × β)} {key : α} {value : β}
    (h : pairs.lookup key = some value) : (key, value) ∈ pairs := by
  induction pairs with
  | nil => cases h
  | cons pair rest ih =>
    obtain ⟨other, held⟩ := pair
    rw [List.lookup_cons] at h
    split at h
    · next heq =>
      cases h
      rw [beq_iff_eq.1 heq]
      exact List.mem_cons_self
    · exact List.mem_cons_of_mem _ (ih h)

/-- Following a way of proper names leads to a place with proper names. -/
theorem proper_resolveFrom {root : Node} (hroot : root.Proper) (links : Nat)
    (known : List (List String × Option (List String))) (place : List String) (steps : List Step)
    (hknown : ProperKnown known) (hplace : ProperNames place)
    (hsteps : ProperNames (steps.filterMap Step.name?)) :
    ProperNames (resolveFrom root links known place steps) := by
  match steps with
  | [] =>
    rw [resolveFrom]
    exact fun name hname => hplace name (List.mem_reverse.1 hname)
  | .linkEnd link :: rest =>
    rw [resolveFrom]
    exact proper_resolveFrom hroot links _ place rest
      (hknown.put link fun found hfound => Option.some.inj hfound ▸ hplace) hplace hsteps
  | .name name :: rest =>
    have hname : ProperName name := hsteps name List.mem_cons_self
    have hrest : ProperNames (rest.filterMap Step.name?) :=
      fun other hother => hsteps other (List.mem_cons_of_mem name hother)
    have hlonger : ProperNames (name :: place) := List.forall_mem_cons.2 ⟨hname, hplace⟩
    rw [resolveFrom.eq_def]
    dsimp only
    split
    · exact proper_resolveFrom hroot links known place.tail rest hknown
        (fun other hother => hplace other (List.mem_of_mem_tail hother)) hrest
    · split
      · next target found hlink hfound =>
        exact proper_resolveFrom hroot _ known found rest hknown
          (hknown _ (mem_of_lookup hfound) found rfl) hrest
      · next target links hlink hfound =>
        have htarget : target.Proper := hroot.at? hlink
        refine proper_resolveFrom hroot links _ _ _ (hknown.put _ fun found hfound => by cases hfound)
          ?_ ?_
        · split
          · exact fun other hother => absurd hother List.not_mem_nil
          · exact hplace
        · rw [List.filterMap_append, List.filterMap_map]
          intro other hother
          rcases List.mem_append.1 hother with htargets | hlater
          · exact htarget other (by simpa [Step.name?] using htargets)
          · exact hrest other hlater
      · intro other hother
        rcases List.mem_append.1 (withoutDots_subset _ hother) with hearly | hlate
        · exact hlonger other (List.mem_reverse.1 hearly)
        · exact hrest other hlate
      · exact proper_resolveFrom hroot _ known (name :: place) rest hknown hlonger hrest
termination_by (links, steps.length)

/-- Resolving a proper path gives a proper absolute path. -/
theorem Proper.resolve {tree : FileTree} (h : tree.Proper) {path resolved : Path}
    (hpath : path.Proper) (hresolved : tree.resolve path = .ok resolved) :
    resolved.Proper ∧ resolved.slashes = 1 := by
  have hsteps : ProperNames (((tree.absolute path).names.map Step.name).filterMap Step.name?) := by
    rw [List.filterMap_map]
    intro name hname
    exact h.here.join hpath name (by simpa [Step.name?, absolute] using hname)
  unfold FileTree.resolve at hresolved
  split at hresolved
  · cases hresolved
  · have hproper := proper_resolveFrom h.root tree.root.linkCount [] [] _
      (fun _ hentry => absurd hentry List.not_mem_nil) (fun _ hname => absurd hname List.not_mem_nil)
      hsteps
    dsimp only at hresolved
    split at hresolved
    · cases hresolved
    · cases hresolved
      exact ⟨hproper, rfl⟩

end FileTree
end KotlinAudit
