import KotlinAudit.Proofs.Keyed
import KotlinAudit.Record.Field

/-! What checks give where they find no fault: a record is read from the values of its fields, a list
from its items and a mapping from its pairs. -/
namespace KotlinAudit.Record

variable {α β κ : Type}

namespace Checked

@[simp] theorem value?_valid (value : α) : (valid value).value? = some value := rfl

@[simp] theorem value?_fault : (fault : Checked α).value? = none := rfl

@[simp] theorem value?_map (change : α → β) (check : Checked α) :
    (change <$> check).value? = check.value?.map change := by
  cases check <;> rfl

@[simp] theorem value?_seq (change : Checked (α → β)) (check : Checked α) :
    (change <*> check).value? = change.value?.bind fun change => check.value?.map change := by
  cases change <;> cases check <;> rfl

@[simp] theorem value?_within (key : String) (check : Checked α) :
    (check.within key).value? = check.value? := by
  cases check <;> rfl

@[simp] theorem value?_ofOption (value : Option α) : (ofOption value).value? = value := by
  cases value <;> rfl

theorem toExcept_eq_ok {check : Checked α} {value : α} :
    check.toExcept = .ok value ↔ check.value? = some value := by
  cases check <;> simp [toExcept, value?]

theorem value?_all_map {items : List α} {check : α → Checked β} (value : α → β)
    (h : ∀ item ∈ items, (check item).value? = some (value item)) :
    (all (items.map check)).value? = some (items.map value) := by
  induction items with
  | nil => rfl
  | cons item rest ih =>
    rw [List.forall_mem_cons] at h
    rw [List.map_cons, all, value?_seq, value?_map, h.1, ih h.2]
    rfl

/-- Where all checks together give something, each of them does. -/
theorem exists_of_value?_all {checks : List (Checked α)} {values : List α}
    (h : (all checks).value? = some values) : ∀ check ∈ checks, ∃ value, check.value? = some value := by
  induction checks generalizing values with
  | nil => simp
  | cons check rest ih =>
    rw [all, value?_seq, value?_map] at h
    obtain ⟨combine, hfirst, hrest⟩ := Option.bind_eq_some_iff.1 h
    obtain ⟨first, hfirst, -⟩ := Option.map_eq_some_iff.1 hfirst
    obtain ⟨others, hothers, -⟩ := Option.map_eq_some_iff.1 hrest
    rw [List.forall_mem_cons]
    exact ⟨⟨first, hfirst⟩, ih hothers⟩

end Checked

/-! ### Fields -/

theorem value?_fields {fields : List (String × Json)} (h : (fields.map Prod.fst).Nodup)
    (read : Fields Json → Checked α) : Record.fields (.object fields) read = read fields := by
  rw [Record.fields, Keyed.ofList_of_nodup h]

@[simp] theorem Fields.value?_required (fields : Fields β) (name : String) (read : β → Checked α) :
    (fields.required name read).value? =
      (fields.lookup name).bind fun value => (read value).value? := by
  unfold Fields.required
  cases fields.lookup name with
  | none => rfl
  | some value => exact Checked.value?_within name (read value)

@[simp] theorem Fields.value?_withDefault (fields : Fields β) (name : String) (default : α)
    (read : β → Checked α) : (fields.withDefault name default read).value? =
      (fields.lookup name).elim (some default) fun value => (read value).value? := by
  unfold Fields.withDefault
  cases fields.lookup name with
  | none => rfl
  | some value => exact Checked.value?_within name (read value)

/-! ### Parts -/

theorem value?_list {read : Json → Checked α} (write : α → Json) {values : List α}
    (h : ∀ value ∈ values, (read (write value)).value? = some value) :
    (list read (.array (values.map write))).value? = some values := by
  rw [list, List.zipIdx_map, List.map_map, Checked.value?_all_map Prod.fst]
  · rw [List.zipIdx_map_fst]
  · intro pair hpair
    simp [h pair.1 (List.fst_mem_of_mem_zipIdx hpair)]

theorem value?_mapping [DecidableEq κ] {key : String → Option κ} (name : κ → String)
    {read : Json → Checked α} (write : α → Json) {pairs : List (κ × α)}
    (hkeys : (pairs.map Prod.fst).Nodup)
    (hname : ∀ pair ∈ pairs, key (name pair.1) = some pair.1)
    (h : ∀ pair ∈ pairs, (read (write pair.2)).value? = some pair.2) :
    (mapping key read (.object (pairs.map fun pair => (name pair.1, write pair.2)))).value? =
      some pairs := by
  rw [mapping, List.map_map, Checked.value?_map, Checked.value?_all_map id]
  · rw [List.map_id, Option.map_some, Keyed.ofList_of_nodup hkeys]
  · intro pair hpair
    simp [hname pair hpair, h pair hpair]

end KotlinAudit.Record
