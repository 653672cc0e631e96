import KotlinAudit.Keyed
import Mathlib.Data.List.Induction
import Mathlib.Data.List.Nodup

/-! Looking values up by key, setting the keys of a list one after the other, and dropping what comes again, so
that the first occurrence stays. -/
namespace KotlinAudit

namespace Keyed

/-- Looking up in the pairs of some keys with their values. -/
theorem lookup_map_pair {κ α : Type} [BEq κ] [LawfulBEq κ] (keys : List κ) (value : κ → α)
    (key : κ) : (keys.map fun each => (each, value each)).lookup key =
      if keys.contains key then some (value key) else none := by
  induction keys with
  | nil => rfl
  | cons first rest ih =>
    rw [List.map_cons, List.lookup_cons, ih, List.contains_cons]
    by_cases hfirst : key = first
    · simp [hfirst]
    · simp [beq_false_of_ne hfirst]

variable {κ α : Type} [DecidableEq κ]

/-- Where no key is repeated, every pair is found under its key. -/
theorem lookup_of_mem {pairs : List (κ × α)} (hn : (pairs.map Prod.fst).Nodup) {key : κ} {value : α}
    (h : (key, value) ∈ pairs) : pairs.lookup key = some value := by
  induction pairs with
  | nil => simp at h
  | cons pair rest ih =>
    obtain ⟨other, old⟩ := pair
    simp only [List.map_cons, List.nodup_cons] at hn
    rw [List.lookup_cons]
    rcases List.mem_cons.1 h with he | hrest
    · cases he
      simp
    · have hne : key ≠ other := fun he => hn.1 (he ▸ List.mem_map_of_mem (f := Prod.fst) hrest)
      rw [beq_false_of_ne hne]
      exact ih hn.2 hrest

/-- A key that is not there is set at the end. -/
theorem put_of_notMem {pairs : List (κ × α)} {key : κ} (h : key ∉ pairs.map Prod.fst) (value : α) :
    put key value pairs = pairs ++ [(key, value)] := by
  induction pairs with
  | nil => rfl
  | cons pair rest ih =>
    rw [List.map_cons, List.mem_cons, not_or] at h
    rw [put, if_neg (Ne.symm h.1), ih h.2]
    rfl

/-- Pairs of which no key is repeated are all kept in their order. -/
theorem ofList_of_nodup {pairs : List (κ × α)} (h : (pairs.map Prod.fst).Nodup) :
    ofList pairs = pairs := by
  suffices hfold : ∀ kept : List (κ × α), ((kept ++ pairs).map Prod.fst).Nodup →
      pairs.foldl (fun kept pair => put pair.1 pair.2 kept) kept = kept ++ pairs from
    hfold [] h
  induction pairs with
  | nil => simp
  | cons pair rest ih =>
    intro kept hn
    rw [List.map_cons, List.nodup_cons] at h
    have hnew : pair.1 ∉ kept.map Prod.fst := by
      rw [List.map_append, List.map_cons] at hn
      intro hmem
      exact (List.nodup_append.1 hn).2.2 _ hmem _ List.mem_cons_self rfl
    rw [List.append_cons] at hn
    rw [List.foldl_cons, put_of_notMem hnew, ih h.2 _ hn, ← List.append_cons]

theorem lookup_put_of_ne {pairs : List (κ × α)} {key other : κ} (h : other ≠ key) (value : α) :
    (put key value pairs).lookup other = pairs.lookup other := by
  induction pairs with
  | nil => rw [put, List.lookup_cons, beq_false_of_ne h]
  | cons pair rest ih =>
    obtain ⟨first, old⟩ := pair
    rw [put]
    split
    · next heq =>
      subst heq
      rw [List.lookup_cons, List.lookup_cons, beq_false_of_ne h]
    · rw [List.lookup_cons, List.lookup_cons, ih]

/-- A key that is never set is not there. -/
theorem lookup_ofList_eq_none {pairs : List (κ × α)} {key : κ} (h : ∀ pair ∈ pairs, pair.1 ≠ key) :
    (ofList pairs).lookup key = none := by
  suffices hfold : ∀ kept : List (κ × α), kept.lookup key = none →
      (pairs.foldl (fun kept pair => put pair.1 pair.2 kept) kept).lookup key = none from
    hfold [] rfl
  induction pairs with
  | nil => exact fun kept hkept => hkept
  | cons pair rest ih =>
    intro kept hkept
    rw [List.forall_mem_cons] at h
    refine ih h.2 _ ?_
    rw [lookup_put_of_ne h.1.symm, hkept]

end Keyed

/-! ### Dropping what comes again -/
namespace Repeats

variable {α : Type} [BEq α] [LawfulBEq α]

omit [LawfulBEq α] in
theorem length_filter_ne_lt (first : α) (rest : List α) :
    (rest.filter fun other => !other == first).length < (first :: rest).length := by
  rw [List.length_cons]
  exact Nat.lt_succ_of_le (List.length_filter_le _ _)

theorem nodup_eraseDups (list : List α) : list.eraseDups.Nodup := by
  match list with
  | [] => exact List.nodup_nil
  | first :: rest =>
    rw [List.eraseDups_cons, List.nodup_cons]
    exact ⟨by simp, nodup_eraseDups _⟩
termination_by list.length
decreasing_by exact length_filter_ne_lt first rest

theorem eraseDups_of_nodup {list : List α} (h : list.Nodup) : list.eraseDups = list := by
  induction list with
  | nil => rfl
  | cons first rest ih =>
    obtain ⟨hfirst, hrest⟩ := List.nodup_cons.1 h
    have hkept : (rest.filter fun other => !other == first) = rest := by
      rw [List.filter_eq_self]
      intro other hother
      simpa using fun heq : other = first => hfirst (heq ▸ hother)
    rw [List.eraseDups_cons, hkept, ih hrest]

/-- It makes no difference whether a part is taken before or after. -/
theorem eraseDups_filter (p : α → Bool) (list : List α) :
    (list.filter p).eraseDups = list.eraseDups.filter p := by
  match list with
  | [] => rfl
  | first :: rest =>
    have hrest := eraseDups_filter p (rest.filter fun other => !other == first)
    rw [List.eraseDups_cons]
    by_cases h : p first
    · rw [List.filter_cons_of_pos h, List.filter_cons_of_pos h, List.eraseDups_cons, ← hrest,
        List.filter_filter, List.filter_filter]
      simp only [Bool.and_comm]
    · -- what equals the first element is left out with it
      have hsame : rest.filter p = (rest.filter fun other => !other == first).filter p := by
        rw [List.filter_filter]
        refine List.filter_congr fun other _ => ?_
        by_cases he : other = first
        · simp [he, h]
        · simp [he]
      rw [List.filter_cons_of_neg h, List.filter_cons_of_neg h, hsame, hrest]
termination_by list.length
decreasing_by exact length_filter_ne_lt first rest

theorem eraseDups_concat_of_mem {list : List α} {last : α} (h : last ∈ list) :
    (list ++ [last]).eraseDups = list.eraseDups := by
  rw [List.eraseDups_append]
  simp [List.removeAll, h]

theorem eraseDups_concat_of_notMem {list : List α} {last : α} (h : last ∉ list) :
    (list ++ [last]).eraseDups = list.eraseDups ++ [last] := by
  rw [List.eraseDups_append]
  simp [List.removeAll, h, List.eraseDups_cons]

/-- Some elements of a list, each once and in the order in which they come first in it. -/
def InOrderOf (list part : List α) : Prop := part.Pairwise fun a b => list.idxOf a < list.idxOf b

theorem inOrderOf_eraseDups (list : List α) : InOrderOf list list.eraseDups := by
  induction list using List.reverseRecOn with
  | nil => exact .nil
  | append_singleton list last ih =>
    have hindex : ∀ a ∈ list.eraseDups, (list ++ [last]).idxOf a = list.idxOf a :=
      fun a ha => List.idxOf_append_of_mem (List.mem_eraseDups.1 ha)
    have hkept : InOrderOf (list ++ [last]) list.eraseDups :=
      List.Pairwise.imp_of_mem (fun ha hb hlt => by rwa [hindex _ ha, hindex _ hb]) ih
    by_cases hlast : last ∈ list
    · rwa [eraseDups_concat_of_mem hlast]
    · rw [eraseDups_concat_of_notMem hlast]
      refine List.pairwise_append.2 ⟨hkept, List.pairwise_singleton _ _, fun a ha b hb => ?_⟩
      rw [List.mem_singleton.1 hb, hindex a ha, List.idxOf_append_of_notMem hlast]
      exact Nat.lt_add_right _ (List.idxOf_lt_length_iff.2 (List.mem_eraseDups.1 ha))

end Repeats
end KotlinAudit
