import Mathlib.Data.List.Nodup
import Mathlib.Data.Prod.Lex

/-! Sorting by a key that keeps the order of what has the same key. Such a sort is determined by the
groups of equal keys, and sorting by two keys is sorting each group of the first one by the second. -/
namespace KotlinAudit.Stable

variable {α κ ι : Type} {key : α → κ} {items : List α}

theorem mem_iff_of_groups [BEq κ] [LawfulBEq κ] {left right : List α}
    (h : ∀ each, left.filter (key · == each) = right.filter (key · == each)) (item : α) :
    item ∈ left ↔ item ∈ right := by
  have hgroup : ∀ items : List α, item ∈ items.filter (key · == key item) ↔ item ∈ items := by
    intro items
    rw [List.mem_filter, beq_self_eq_true, and_iff_left rfl]
  rw [← hgroup left, h, hgroup right]

variable [LinearOrder κ] [LinearOrder ι]

/-- Some items in the order of a key, those with the same key in the order they had. -/
def sortedBy (key : α → κ) (items : List α) : List α :=
  items.mergeSort fun left right => key left ≤ key right

theorem perm_sortedBy (key : α → κ) (items : List α) : (sortedBy key items).Perm items :=
  List.mergeSort_perm items _

theorem mem_sortedBy {item : α} : item ∈ sortedBy key items ↔ item ∈ items := List.mem_mergeSort

theorem trans_decide (key : α → κ) (first second third : α) :
    decide (key first ≤ key second) = true → decide (key second ≤ key third) = true →
      decide (key first ≤ key third) = true := by
  simp only [decide_eq_true_eq]
  exact le_trans

theorem total_decide (key : α → κ) (first second : α) :
    (decide (key first ≤ key second) || decide (key second ≤ key first)) = true := by
  rw [Bool.or_eq_true, decide_eq_true_eq, decide_eq_true_eq]
  exact le_total _ _

theorem pairwise_sortedBy (key : α → κ) (items : List α) :
    (sortedBy key items).Pairwise fun left right => key left ≤ key right :=
  (List.pairwise_mergeSort (trans_decide key) (total_decide key) items).imp of_decide_eq_true

/-- Items that all have one key stay in their order. -/
theorem filter_sortedBy {keeps : α → Bool}
    (h : ∀ left right, keeps left = true → keeps right = true → key left = key right) :
    (sortedBy key items).filter keeps = items.filter keeps := by
  have hsorted : (items.filter keeps).Pairwise fun left right =>
      decide (key left ≤ key right) = true := by
    refine List.pairwise_of_forall_mem_list fun left hleft right hright => decide_eq_true ?_
    exact (h left right (List.mem_filter.1 hleft).2 (List.mem_filter.1 hright).2).le
  have hsub : (items.filter keeps).Sublist (sortedBy key items) :=
    List.sublist_mergeSort (trans_decide key) (total_decide key) hsorted List.filter_sublist
  have hkept : (items.filter keeps).Sublist ((sortedBy key items).filter keeps) := by
    have hfilter := hsub.filter keeps
    rwa [List.filter_filter, funext fun item => Bool.and_self (keeps item)] at hfilter
  exact (hkept.eq_of_length ((perm_sortedBy key items).filter keeps).length_eq.symm).symm

/-! ### Groups of equal keys -/

section Groups

variable [BEq κ] [LawfulBEq κ]

/-- Two lists in the order of a key are equal if their groups of equal keys are. -/
theorem eq_of_groups {left right : List α}
    (hleft : left.Pairwise fun first second => key first ≤ key second)
    (hright : right.Pairwise fun first second => key first ≤ key second)
    (h : ∀ each, left.filter (key · == each) = right.filter (key · == each)) : left = right := by
  have hmem := mem_iff_of_groups h
  induction left generalizing right with
  | nil => exact (List.eq_nil_iff_forall_not_mem.2 fun item hitem =>
      List.not_mem_nil ((hmem item).2 hitem)).symm
  | cons first rest ih =>
    cases right with
    | nil => exact absurd ((hmem first).1 List.mem_cons_self) List.not_mem_nil
    | cons other others =>
      rw [List.pairwise_cons] at hleft hright
      -- both heads have the least key, and the group of that key begins with them
      have hkey : key first = key other := by
        refine le_antisymm ?_ ?_
        · rcases List.mem_cons.1 ((hmem other).2 List.mem_cons_self) with rfl | hother
          · exact le_rfl
          · exact hleft.1 other hother
        · rcases List.mem_cons.1 ((hmem first).1 List.mem_cons_self) with rfl | hfirst
          · exact le_rfl
          · exact hright.1 first hfirst
      have hfirst : (key first == key first) = true := beq_self_eq_true _
      have hother : (key other == key first) = true := beq_iff_eq.2 hkey.symm
      have hhead := h (key first)
      rw [List.filter_cons, if_pos hfirst, List.filter_cons, if_pos hother] at hhead
      obtain rfl := (List.cons.inj hhead).1
      have hrest : ∀ each, rest.filter (key · == each) = others.filter (key · == each) := by
        intro each
        have heach := h each
        rw [List.filter_cons, List.filter_cons] at heach
        split_ifs at heach with hsame
        · exact (List.cons.inj heach).2
        · exact heach
      rw [ih hleft.2 hright.2 hrest (mem_iff_of_groups hrest)]

/-- A stable sort has the order of the key and all groups of equal keys as they were, and nothing else
has both. -/
theorem eq_sortedBy_iff {sorted : List α} : sorted = sortedBy key items ↔
    (sorted.Pairwise fun left right => key left ≤ key right) ∧
      ∀ each, sorted.filter (key · == each) = items.filter (key · == each) := by
  have hgroups : ∀ each, (sortedBy key items).filter (key · == each) =
      items.filter (key · == each) := fun each =>
    filter_sortedBy fun _ _ hleft hright => (eq_of_beq hleft).trans (eq_of_beq hright).symm
  constructor
  · rintro rfl
    exact ⟨pairwise_sortedBy key items, hgroups⟩
  · rintro ⟨hsorted, hsame⟩
    exact eq_of_groups hsorted (pairwise_sortedBy key items)
      fun each => (hsame each).trans (hgroups each).symm

/-- A stable sort depends on nothing but the groups of equal keys. -/
theorem sortedBy_congr {others : List α}
    (h : ∀ each, items.filter (key · == each) = others.filter (key · == each)) :
    sortedBy key items = sortedBy key others := by
  obtain ⟨hsorted, hgroups⟩ := eq_sortedBy_iff.1 (rfl : sortedBy key items = _)
  exact eq_sortedBy_iff.2 ⟨hsorted, fun each => (hgroups each).trans (h each)⟩

end Groups

/-! ### Parts in a row -/

/-- Where the results of an item are kept or dropped with it, dropping items is dropping results. -/
theorem flatMap_filter {β : Type} {p : α → Bool} {q : β → Bool} {found : α → List β}
    (h : ∀ item ∈ items, ∀ result ∈ found item, q result = p item) :
    (items.filter p).flatMap found = items.flatMap fun item => (found item).filter q := by
  induction items with
  | nil => rfl
  | cons item rest ih =>
    rw [List.forall_mem_cons] at h
    rw [List.flatMap_cons, ← ih h.2]
    by_cases hp : p item
    · have hall : (found item).filter q = found item :=
        List.filter_eq_self.2 fun result hresult => (h.1 result hresult).trans hp
      rw [List.filter_cons_of_pos hp, List.flatMap_cons, hall]
    · have hnone : (found item).filter q = [] :=
        List.filter_eq_nil_iff.2 fun result hresult hq => hp ((h.1 result hresult) ▸ hq)
      rw [List.filter_cons_of_neg hp, hnone, List.nil_append]

theorem flatMap_of_single {β : Type} {parts : α → List β} {part : α} (hn : items.Nodup)
    (hpart : part ∈ items) (h : ∀ other ∈ items, other ≠ part → parts other = []) :
    items.flatMap parts = parts part := by
  obtain ⟨before, after, rfl⟩ := List.append_of_mem hpart
  rw [List.nodup_append, List.nodup_cons] at hn
  have hbefore : before.flatMap parts = [] := List.flatMap_eq_nil_iff.2 fun other hother =>
    h other (List.mem_append_left _ hother) (hn.2.2 other hother part List.mem_cons_self)
  have hafter : after.flatMap parts = [] := List.flatMap_eq_nil_iff.2 fun other hother =>
    h other (List.mem_append_right _ (List.mem_cons_of_mem _ hother))
      fun heq => hn.2.1.1 (heq ▸ hother)
  rw [List.flatMap_append, List.flatMap_cons, hbefore, hafter, List.nil_append, List.append_nil]

/-! ### Two keys -/

/-- Sorting by two keys one group of the first key after the other, each sorted by the second key. -/
theorem sortedBy_eq_flatMap [BEq ι] [LawfulBEq ι] {group : α → ι} {keys : List ι}
    (hkeys : keys.Pairwise (· < ·)) (hall : ∀ item ∈ items, group item ∈ keys) (key : α → κ) :
    sortedBy (fun item => toLex (group item, key item)) items =
      keys.flatMap fun each => sortedBy key (items.filter (group · == each)) := by
  symm
  have hgroup : ∀ {each item}, item ∈ sortedBy key (items.filter (group · == each)) →
      group item = each := fun hitem => eq_of_beq (List.mem_filter.1 (mem_sortedBy.1 hitem)).2
  rw [eq_sortedBy_iff]
  constructor
  · rw [List.pairwise_flatMap]
    constructor
    · intro each heach
      refine (pairwise_sortedBy key _).imp_of_mem fun hleft hright hle => ?_
      rw [Prod.Lex.toLex_le_toLex]
      exact .inr ⟨(hgroup hleft).trans (hgroup hright).symm, hle⟩
    · refine hkeys.imp fun hlt left hleft right hright => ?_
      rw [Prod.Lex.toLex_le_toLex]
      exact .inl (hgroup hleft ▸ hgroup hright ▸ hlt)
  · intro each
    obtain ⟨⟨first, second⟩, rfl⟩ := toLex.surjective each
    have hboth : ∀ {item}, (toLex (group item, key item) == toLex (first, second)) = true →
        group item = first ∧ key item = second := fun hitem =>
      Prod.mk.inj (toLex.injective (eq_of_beq hitem))
    -- within a group the second key alone tells what is kept
    have hpart : ∀ other, (sortedBy key (items.filter (group · == other))).filter
        (fun item => toLex (group item, key item) == toLex (first, second)) =
          if other = first then
            items.filter fun item => toLex (group item, key item) == toLex (first, second)
          else [] := by
      intro other
      rw [filter_sortedBy fun left right hleft hright =>
        (hboth hleft).2.trans (hboth hright).2.symm, List.filter_filter]
      split_ifs with heq
      · refine List.filter_congr fun item _ => ?_
        rw [Bool.and_eq_left_iff_imp]
        exact fun hitem => heq ▸ beq_iff_eq.2 (hboth hitem).1
      · rw [List.filter_eq_nil_iff]
        intro item _ hitem
        rw [Bool.and_eq_true] at hitem
        exact heq ((eq_of_beq hitem.2).symm.trans (hboth hitem.1).1)
    refine List.filter_flatMap.trans ((List.flatMap_congr fun other _ => hpart other).trans ?_)
    by_cases hfirst : first ∈ keys
    · rw [flatMap_of_single hkeys.nodup hfirst fun other _ hne => if_neg hne, if_pos rfl]
    · have hother : ∀ other ∈ keys, ¬other = first := fun other hother heq => hfirst (heq ▸ hother)
      rw [List.flatMap_eq_nil_iff.2 fun other hmem => if_neg (hother other hmem), eq_comm,
        List.filter_eq_nil_iff]
      exact fun item hitem hkept => hfirst ((hboth hkept).1 ▸ hall item hitem)

end KotlinAudit.Stable
