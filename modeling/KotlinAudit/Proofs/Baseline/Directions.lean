import KotlinAudit.Proofs.Baseline.Shift

/-! The directions of changes. In exact arithmetic a comparison is antisymmetric: what has improved one way
has regressed the other way. The program, which compares in binary numbers, names the same quantities. -/
namespace KotlinAudit

open Decimal (Arithmetic Binary64)

namespace Quantity

variable {quantity : Quantity}

/-! ### The quantities that are picked -/

section Picked

variable {α : Type} {pick : Shift α → Option α} {shift : Quantity → Shift α}

/-- The amounts that are picked from shifts, by the names of the quantities. -/
def picked (pick : Shift α → Option α) (shift : Quantity → Shift α) : List (String × α) :=
  all.filterMap fun quantity => (pick (shift quantity)).map (quantity.name, ·)

theorem mem_picked_iff {change : String × α} : change ∈ picked pick shift ↔
    ∃ quantity : Quantity, quantity.name = change.1 ∧ pick (shift quantity) = some change.2 := by
  rw [picked, List.mem_filterMap]
  constructor
  · rintro ⟨quantity, -, hpicked⟩
    obtain ⟨amount, hamount, rfl⟩ := Option.map_eq_some_iff.1 hpicked
    exact ⟨quantity, rfl, hamount⟩
  · rintro ⟨quantity, hname, hamount⟩
    exact ⟨quantity, mem_all quantity, by rw [hamount, Option.map_some, hname]⟩

theorem pair_mem_picked_iff {amount : α} :
    (quantity.name, amount) ∈ picked pick shift ↔ pick (shift quantity) = some amount := by
  rw [mem_picked_iff]
  constructor
  · rintro ⟨other, hname, hamount⟩
    rwa [name_injective hname] at hamount
  · exact fun h => ⟨quantity, rfl, h⟩

theorem name_mem_picked_iff :
    quantity.name ∈ (picked pick shift).map Prod.fst ↔ (pick (shift quantity)).isSome = true := by
  rw [List.mem_map, Option.isSome_iff_exists]
  constructor
  · rintro ⟨⟨name, amount⟩, hmem, rfl⟩
    exact ⟨amount, pair_mem_picked_iff.1 hmem⟩
  · rintro ⟨amount, hamount⟩
    exact ⟨(quantity.name, amount), pair_mem_picked_iff.2 hamount, rfl⟩

/-- The names are those of the quantities that something is picked of, in their order. -/
theorem map_fst_picked (pick : Shift α → Option α) (shift : Quantity → Shift α) :
    (picked pick shift).map Prod.fst =
      (all.filter fun quantity => (pick (shift quantity)).isSome).map name := by
  unfold picked
  induction all with
  | nil => rfl
  | cons quantity rest ih =>
    cases hpick : pick (shift quantity) with
    | none => simp [hpick, ih]
    | some amount => simp [hpick, ih]

end Picked
end Quantity

namespace Metrics

variable {α : Type} {arithmetic : Arithmetic α} {current before : Metrics}

/-- The improved and the regressed quantities with their amounts. -/
def comparedIn (arithmetic : Arithmetic α) (current before : Metrics) :
    Except ChangeError (List (String × α) × List (String × α)) := do
  let shifts ← Quantity.all.mapM fun quantity => do
    let shift ← quantity.shiftIn arithmetic current before
    return (quantity.name, shift)
  return (shifts.filterMap fun (name, shift) => shift.improvement?.map (name, ·),
    shifts.filterMap fun (name, shift) => shift.regression?.map (name, ·))

/-- A comparison is made if all quantities can be compared. -/
theorem comparedIn_of_forall {shift : Quantity → Shift α}
    (h : ∀ quantity : Quantity,
      quantity.shiftIn arithmetic current before = .ok (shift quantity)) :
    current.comparedIn arithmetic before =
      .ok (Quantity.picked Shift.improvement? shift, Quantity.picked Shift.regression? shift) := by
  have hshifts : (Quantity.all.mapM fun quantity => (do
      let shift ← quantity.shiftIn arithmetic current before
      return (quantity.name, shift) : Except ChangeError (String × Shift α))) =
      .ok (Quantity.all.map fun quantity => (quantity.name, shift quantity)) :=
    Outcome.mapM_of_forall fun quantity _ => by rw [h quantity]; rfl
  unfold comparedIn
  rw [hshifts]
  simp only [Quantity.picked, List.filterMap_map, Function.comp_def, pure, Except.pure, bind,
    Except.bind]

theorem exists_shift_of_comparedIn {changes : List (String × α) × List (String × α)}
    (h : current.comparedIn arithmetic before = .ok changes) :
    ∃ shift : Quantity → Shift α,
      (∀ quantity : Quantity,
        quantity.shiftIn arithmetic current before = .ok (shift quantity)) ∧
      changes = (Quantity.picked Shift.improvement? shift,
        Quantity.picked Shift.regression? shift) := by
  obtain ⟨shifts, hshifts, -⟩ := Outcome.bind_eq_ok.1 h
  have hshift : ∀ quantity : Quantity, ∃ shift,
      quantity.shiftIn arithmetic current before = .ok shift := by
    intro quantity
    obtain ⟨named, hnamed⟩ := Outcome.exists_of_mapM hshifts quantity (Quantity.mem_all quantity)
    obtain ⟨shift, hshift, -⟩ := Outcome.bind_eq_ok.1 hnamed
    exact ⟨shift, hshift⟩
  choose shift hshift using hshift
  refine ⟨shift, hshift, ?_⟩
  rw [comparedIn_of_forall hshift] at h
  cases h
  rfl

/-! ### In the arithmetic of the program -/

/-- A change as a shift of binary numbers. -/
def shiftOf : Change → Shift Binary64
  | .improved value => .improved value
  | .regressed value => .regressed value
  | .none => .none

theorem countAmount_binary (before after : Int) :
    Shift.countAmount .binary before after = countChange before after := by
  unfold Shift.countAmount countChange
  simp only [Arithmetic.binary]
  cases Binary64.ofRat? _ <;> rfl

theorem ofCounts_binary (before after : Int) :
    Shift.ofCounts .binary before after = (Change.ofCounts before after).map shiftOf := by
  unfold Shift.ofCounts Change.ofCounts
  rw [countAmount_binary]
  split_ifs
  · cases countChange before after <;> rfl
  · cases countChange before after <;> rfl
  · rfl

theorem ofAverages_binary (before after : Binary64) :
    Shift.ofAverages .binary before after = shiftOf (.ofAverages before after) := by
  change (if after.lt before then Shift.improved (averageChange before after)
    else if before.lt after then Shift.regressed (averageChange before after) else Shift.none) = _
  unfold Change.ofAverages
  split_ifs <;> rfl

theorem ofCoverages_binary (before after : Binary64) :
    Shift.ofCoverages .binary before after = shiftOf (.ofCoverages before after) := by
  change (if before.lt after then Shift.improved (after.sub before)
    else if after.lt before then Shift.regressed (before.sub after) else Shift.none) = _
  unfold Change.ofCoverages
  split_ifs <;> rfl

theorem mapM_shiftIn_binary (current before : Metrics) :
    (Quantity.all.mapM fun quantity => (do
      let shift ← quantity.shiftIn .binary current before
      return (quantity.name, shift) : Except ChangeError (String × Shift Binary64))) =
      (current.changes before).map (List.map fun (name, change) => (name, shiftOf change)) := by
  have hcounts : (Priority.all.mapM fun priority => (do
      let shift ← Shift.ofCounts .binary (before.byPriority.get priority)
        (current.byPriority.get priority)
      return (priority.name ++ "_issues", shift) : Except ChangeError (String × Shift Binary64))) =
      (Priority.all.mapM fun priority => (do
        let change ← Change.ofCounts (before.byPriority.get priority)
          (current.byPriority.get priority)
        return (priority.name ++ "_issues", change) : Except ChangeError (String × Change))).map
          (List.map fun (name, change) => (name, shiftOf change)) := by
    rw [← Outcome.mapM_map]
    congr 1
    funext priority
    rw [ofCounts_binary]
    cases Change.ofCounts _ _ <;> rfl
  unfold Metrics.changes Quantity.all
  rw [List.mapM_append, List.mapM_map]
  simp only [Function.comp_def, Quantity.shiftIn, Quantity.name]
  rw [hcounts]
  simp only [ofAverages_binary, ofCoverages_binary]
  cases (Priority.all.mapM _ : Except ChangeError (List (String × Change))) with
  | error failure => rfl
  | ok counts => simp [Except.map, Arithmetic.binary, bind, Except.bind, pure, Except.pure]

/-- The program compares metrics in binary numbers. -/
theorem comparedIn_binary (baseline : Baseline) (current : Metrics) (ids : Option (List String)) :
    current.comparedIn .binary baseline.metrics =
      (baseline.compare current ids).map fun comparison =>
        (comparison.improved, comparison.regressed) := by
  have himprovement : ∀ change, (shiftOf change).improvement? = change.improvement? := by
    intro change
    cases change <;> rfl
  have hregression : ∀ change, (shiftOf change).regression? = change.regression? := by
    intro change
    cases change <;> rfl
  unfold comparedIn Baseline.compare
  rw [mapM_shiftIn_binary]
  cases current.changes baseline.metrics with
  | error failure => rfl
  | ok changes =>
    cases ids <;> simp [Except.map, bind, Except.bind, pure, Except.pure, List.filterMap_map,
      himprovement, hregression]

/-! ### The directions -/

/-- The improved and the regressed quantities of a run: those that are strictly better and those that are
strictly worse than before, each with an amount. -/
structure Judged (improved regressed : List (String × ℚ)) (current before : Metrics) : Prop where
  better : ∀ quantity : Quantity,
    quantity.name ∈ improved.map Prod.fst ↔ quantity.Better current before
  worse : ∀ quantity : Quantity,
    quantity.name ∈ regressed.map Prod.fst ↔ quantity.Better before current
  unchanged : ∀ quantity : Quantity, quantity.value current = quantity.value before →
    quantity.name ∉ improved.map Prod.fst ∧ quantity.name ∉ regressed.map Prod.fst
  named : ∀ change ∈ improved ++ regressed, ∃ quantity : Quantity, quantity.name = change.1
  positive : ∀ change ∈ improved ++ regressed, 0 < change.2
  bounded : ∀ quantity : Quantity, quantity.isCoverage = false → 0 ≤ quantity.value current →
    ∀ amount, (quantity.name, amount) ∈ improved → amount ≤ 100

/-- The shifts of all quantities in exact arithmetic. -/
def exactShift (current before : Metrics) (quantity : Quantity) : Shift ℚ :=
  .along (quantity.gain current before) (quantity.amount current before)

theorem follows_exactShift (current before : Metrics) (quantity : Quantity) :
    (exactShift current before quantity).Follows (quantity.gain current before) :=
  Shift.follows_along _ _

theorem comparedIn_rational (current before : Metrics) :
    current.comparedIn .rational before =
      .ok (Quantity.picked Shift.improvement? (exactShift current before),
        Quantity.picked Shift.regression? (exactShift current before)) :=
  comparedIn_of_forall fun quantity => quantity.shiftIn_rational current before

theorem judged_exactShift (current before : Metrics) :
    Judged (Quantity.picked Shift.improvement? (exactShift current before))
      (Quantity.picked Shift.regression? (exactShift current before)) current before := by
  have himproved : ∀ quantity : Quantity,
      quantity.name ∈ (Quantity.picked Shift.improvement? (exactShift current before)).map Prod.fst ↔
        quantity.Better current before := fun quantity => by
    rw [Quantity.name_mem_picked_iff, (follows_exactShift _ _ quantity).isSome_improvement?_iff,
      Quantity.Better]
  have hregressed : ∀ quantity : Quantity,
      quantity.name ∈ (Quantity.picked Shift.regression? (exactShift current before)).map Prod.fst ↔
        quantity.Better before current := fun quantity => by
    rw [Quantity.name_mem_picked_iff, (follows_exactShift _ _ quantity).isSome_regression?_iff,
      Quantity.better_swap_iff]
  refine ⟨himproved, hregressed, fun quantity hsame => ?_, ?_, ?_, ?_⟩
  · have hgain := Quantity.gain_eq_zero_iff.2 hsame
    rw [himproved, hregressed, Quantity.Better, Quantity.Better, Quantity.gain_swap quantity current,
      hgain, neg_zero]
    exact ⟨lt_irrefl 0, lt_irrefl 0⟩
  · rw [List.forall_mem_append]
    constructor
    · intro change hchange
      obtain ⟨quantity, hname, -⟩ := Quantity.mem_picked_iff.1 hchange
      exact ⟨quantity, hname⟩
    · intro change hchange
      obtain ⟨quantity, hname, -⟩ := Quantity.mem_picked_iff.1 hchange
      exact ⟨quantity, hname⟩
  · rw [List.forall_mem_append]
    constructor
    · intro change hchange
      obtain ⟨quantity, -, hpicked⟩ := Quantity.mem_picked_iff.1 hchange
      obtain ⟨hgain, hamount⟩ := Shift.improvement?_along.1 hpicked
      exact hamount ▸ Quantity.amount_pos hgain.ne'
    · intro change hchange
      obtain ⟨quantity, -, hpicked⟩ := Quantity.mem_picked_iff.1 hchange
      obtain ⟨hgain, hamount⟩ := Shift.regression?_along.1 hpicked
      exact hamount ▸ Quantity.amount_pos hgain.ne
  · intro quantity hkind hvalue amount hmem
    obtain ⟨hgain, rfl⟩ := Shift.improvement?_along.1 (Quantity.pair_mem_picked_iff.1 hmem)
    exact Quantity.amount_le hkind hvalue hgain

/-- Compared the other way round, what has improved has regressed. -/
theorem map_fst_improved_swap (current before : Metrics) :
    (Quantity.picked Shift.improvement? (exactShift before current)).map Prod.fst =
      (Quantity.picked Shift.regression? (exactShift current before)).map Prod.fst := by
  rw [Quantity.map_fst_picked, Quantity.map_fst_picked]
  congr 1
  refine List.filter_congr fun quantity _ => ?_
  rw [Bool.eq_iff_iff, (follows_exactShift _ _ quantity).isSome_improvement?_iff,
    (follows_exactShift _ _ quantity).isSome_regression?_iff]
  exact Quantity.better_swap_iff

/-- Compared the other way round, a coverage changes by the same amount. -/
theorem mem_improved_swap {current before : Metrics} {quantity : Quantity} {amount : ℚ}
    (hkind : quantity.isCoverage = true) :
    (quantity.name, amount) ∈ Quantity.picked Shift.improvement? (exactShift before current) ↔
      (quantity.name, amount) ∈ Quantity.picked Shift.regression? (exactShift current before) := by
  rw [Quantity.pair_mem_picked_iff, Quantity.pair_mem_picked_iff, exactShift, exactShift,
    Shift.improvement?_along, Shift.regression?_along, Quantity.amount_swap hkind]
  exact and_congr_left' Quantity.better_swap_iff

/-- The program names the quantities that exact arithmetic names. -/
theorem map_fst_of_compare {current : Metrics} {baseline : Baseline} {ids : Option (List String)}
    {comparison : Comparison} (hcurrent : ∀ number ∈ current.numbers, number.isFinite = true)
    (hbefore : ∀ number ∈ baseline.metrics.numbers, number.isFinite = true)
    (h : baseline.compare current ids = .ok comparison) :
    comparison.improved.map Prod.fst =
        (Quantity.picked Shift.improvement? (exactShift current baseline.metrics)).map Prod.fst ∧
      comparison.regressed.map Prod.fst =
        (Quantity.picked Shift.regression? (exactShift current baseline.metrics)).map Prod.fst := by
  have hbinary := comparedIn_binary baseline current ids
  rw [h] at hbinary
  obtain ⟨shift, hshift, hchanges⟩ := exists_shift_of_comparedIn hbinary
  obtain ⟨himproved, hregressed⟩ := Prod.mk.inj hchanges
  have hfollows : ∀ quantity, (shift quantity).Follows (quantity.gain current baseline.metrics) :=
    fun quantity => Quantity.follows_shiftIn_binary hcurrent hbefore (hshift quantity)
  rw [himproved, hregressed]
  simp only [Quantity.map_fst_picked]
  constructor
  · congr 1
    refine List.filter_congr fun quantity _ => ?_
    rw [Bool.eq_iff_iff, (hfollows quantity).isSome_improvement?_iff,
      (follows_exactShift _ _ quantity).isSome_improvement?_iff]
  · congr 1
    refine List.filter_congr fun quantity _ => ?_
    rw [Bool.eq_iff_iff, (hfollows quantity).isSome_regression?_iff,
      (follows_exactShift _ _ quantity).isSome_regression?_iff]

/-- A comparison is computed by one rule, in the program in binary numbers. In exact arithmetic the rule
names each quantity as improved exactly if it is strictly better and as regressed exactly if it is strictly
worse, with positive amounts and no improvement of a count or an average by more than one hundred percent;
in the other direction the names are swapped, and the coverages keep their amounts. The program names the
same quantities. -/
theorem compared_exactly {current : Metrics} {baseline : Baseline}
    (hcurrent : ∀ number ∈ current.numbers, number.isFinite = true)
    (hbefore : ∀ number ∈ baseline.metrics.numbers, number.isFinite = true) :
    ∃ improved regressed improved' regressed' : List (String × ℚ),
      current.comparedIn .rational baseline.metrics = .ok (improved, regressed) ∧
      Judged improved regressed current baseline.metrics ∧
      baseline.metrics.comparedIn .rational current = .ok (improved', regressed') ∧
      improved'.map Prod.fst = regressed.map Prod.fst ∧
      regressed'.map Prod.fst = improved.map Prod.fst ∧
      (∀ quantity : Quantity, quantity.isCoverage = true → ∀ amount,
        ((quantity.name, amount) ∈ improved' ↔ (quantity.name, amount) ∈ regressed) ∧
        ((quantity.name, amount) ∈ regressed' ↔ (quantity.name, amount) ∈ improved)) ∧
      ∀ ids,
        (baseline.compare current ids).map (fun comparison =>
          (comparison.improved, comparison.regressed)) =
            current.comparedIn .binary baseline.metrics ∧
        ∀ comparison, baseline.compare current ids = .ok comparison →
          comparison.improved.map Prod.fst = improved.map Prod.fst ∧
          comparison.regressed.map Prod.fst = regressed.map Prod.fst := by
  refine ⟨_, _, _, _, comparedIn_rational current baseline.metrics, judged_exactShift _ _,
    comparedIn_rational baseline.metrics current, map_fst_improved_swap _ _,
    (map_fst_improved_swap _ _).symm, fun quantity hkind amount => ?_, fun ids => ?_⟩
  · exact ⟨mem_improved_swap hkind, (mem_improved_swap hkind).symm⟩
  · exact ⟨(comparedIn_binary baseline current ids).symm, fun comparison h =>
      map_fst_of_compare hcurrent hbefore h⟩

/-- Metrics before: four critical findings and full coverage. -/
def critical : Metrics := { Metrics.empty with byPriority := [(.critical, 4)] }

/-- Metrics after: three critical findings fewer, a severe one that was not counted before, and less
coverage. -/
def mended : Metrics :=
  { Metrics.empty with byPriority := [(.high, 1), (.critical, 1)], testCoverage := .ofRat 50 }

theorem compared_exactly_mended :
    (∀ number ∈ mended.numbers, number.isFinite = true) ∧
    (∀ number ∈ critical.numbers, number.isFinite = true) ∧
    ∃ improved regressed improved' regressed' : List (String × ℚ),
      mended.comparedIn .rational critical = .ok (improved, regressed) ∧
      critical.comparedIn .rational mended = .ok (improved', regressed') ∧
      "critical_issues" ∈ improved.map Prod.fst ∧ "high_issues" ∈ regressed.map Prod.fst ∧
      "medium_issues" ∉ improved.map Prod.fst ∧
      "critical_issues" ∈ regressed'.map Prod.fst ∧ "high_issues" ∈ improved'.map Prod.fst := by
  have hmended : ∀ number ∈ mended.numbers, number.isFinite = true := by decide
  have hcritical : ∀ number ∈ critical.numbers, number.isFinite = true := by decide
  obtain ⟨improved, regressed, improved', regressed', hcompared, hjudged, hback, himproved,
    hregressed, -⟩ := @compared_exactly mended ⟨0, critical, []⟩ hmended hcritical
  have hfewer : "critical_issues" ∈ improved.map Prod.fst := by
    refine (hjudged.better (.issues .critical)).2 ?_
    change (0 : ℚ) < ((4 : Int) : ℚ) - ((1 : Int) : ℚ)
    norm_num
  have hmore : "high_issues" ∈ regressed.map Prod.fst := by
    refine (hjudged.worse (.issues .high)).2 ?_
    change (0 : ℚ) < ((1 : Int) : ℚ) - ((0 : Int) : ℚ)
    norm_num
  refine ⟨hmended, hcritical, improved, regressed, improved', regressed', hcompared, hback, hfewer,
    hmore, (hjudged.unchanged (.issues .medium) rfl).1, ?_, ?_⟩
  · rwa [hregressed]
  · rwa [himproved]

end Metrics
end KotlinAudit
