/-! Computations that may fail: when a chain of them, or one of them on every item of a list, comes
to an end. -/
namespace KotlinAudit.Outcome

variable {ε α β : Type}

theorem bind_eq_ok {first : Except ε α} {next : α → Except ε β} {result : β} :
    first >>= next = .ok result ↔ ∃ value, first = .ok value ∧ next value = .ok result := by
  cases first with
  | error failure => simp [bind, Except.bind]
  | ok value => simp [bind, Except.bind]

theorem bind_congr_of_ok {first : Except ε α} {next other : α → Except ε β}
    (h : ∀ value, first = .ok value → next value = other value) : first >>= next = first >>= other := by
  cases first with
  | error failure => rfl
  | ok value => exact h value rfl

theorem map_eq_ok {change : α → β} {first : Except ε α} {result : β} :
    first.map change = .ok result ↔ ∃ value, first = .ok value ∧ change value = result := by
  cases first with
  | error failure => simp [Except.map]
  | ok value => simp [Except.map]

theorem mapError_eq_ok {ε' : Type} {change : ε → ε'} {outcome : Except ε α} {result : α} :
    outcome.mapError change = .ok result ↔ outcome = .ok result := by
  cases outcome with
  | error failure => exact iff_of_false (by rintro ⟨⟩) (by rintro ⟨⟩)
  | ok value =>
    constructor
    · rintro ⟨⟩
      rfl
    · rintro ⟨⟩
      rfl

/-- Where nothing fails, a list is gone through to its end. -/
theorem mapM_of_forall {step : α → Except ε β} {value : α → β} {items : List α}
    (h : ∀ item ∈ items, step item = .ok (value item)) :
    items.mapM step = .ok (items.map value) := by
  induction items with
  | nil => rfl
  | cons item rest ih =>
    rw [List.forall_mem_cons] at h
    rw [List.mapM_cons, h.1, ih h.2]
    rfl

/-- Where a list is gone through to its end, nothing has failed. -/
theorem exists_of_mapM {step : α → Except ε β} {items : List α} {results : List β}
    (h : items.mapM step = .ok results) : ∀ item ∈ items, ∃ value, step item = .ok value := by
  induction items generalizing results with
  | nil => simp
  | cons item rest ih =>
    rw [List.mapM_cons] at h
    obtain ⟨value, hvalue, h⟩ := bind_eq_ok.1 h
    obtain ⟨others, hothers, -⟩ := bind_eq_ok.1 h
    rw [List.forall_mem_cons]
    exact ⟨⟨value, hvalue⟩, ih hothers⟩

theorem exists_item_of_mapM {step : α → Except ε β} {items : List α} {results : List β}
    (h : items.mapM step = .ok results) : ∀ result ∈ results, ∃ item ∈ items, step item = .ok result := by
  induction items generalizing results with
  | nil =>
    cases h
    simp
  | cons item rest ih =>
    rw [List.mapM_cons] at h
    obtain ⟨value, hvalue, hrest⟩ := bind_eq_ok.1 h
    obtain ⟨others, hothers, hresults⟩ := bind_eq_ok.1 hrest
    cases hresults
    intro result hresult
    rcases List.mem_cons.1 hresult with rfl | hlater
    · exact ⟨item, List.mem_cons_self, hvalue⟩
    · obtain ⟨origin, horigin, hstep⟩ := ih hothers result hlater
      exact ⟨origin, List.mem_cons_of_mem item horigin, hstep⟩

/-- Where a list is gone through to its end, each item has its result. -/
theorem exists_mem_of_mapM {step : α → Except ε β} {items : List α} {results : List β}
    (h : items.mapM step = .ok results) :
    ∀ item ∈ items, ∃ result ∈ results, step item = .ok result := by
  induction items generalizing results with
  | nil => exact fun _ hitem => absurd hitem List.not_mem_nil
  | cons item rest ih =>
    rw [List.mapM_cons] at h
    obtain ⟨value, hvalue, hrest⟩ := bind_eq_ok.1 h
    obtain ⟨others, hothers, hresults⟩ := bind_eq_ok.1 hrest
    cases hresults
    rw [List.forall_mem_cons]
    refine ⟨⟨value, List.mem_cons_self, hvalue⟩, fun later hlater => ?_⟩
    obtain ⟨result, hresult, hstep⟩ := ih hothers later hlater
    exact ⟨result, List.mem_cons_of_mem value hresult, hstep⟩

/-- Where a list is not gone through to its end, one of its items has failed. -/
theorem exists_item_of_mapM_error {step : α → Except ε β} {items : List α} {failure : ε}
    (h : items.mapM step = .error failure) : ∃ item ∈ items, step item = .error failure := by
  induction items with
  | nil => cases h
  | cons item rest ih =>
    rw [List.mapM_cons] at h
    cases hitem : step item with
    | error other =>
      rw [hitem] at h
      cases h
      exact ⟨item, List.mem_cons_self, hitem⟩
    | ok value =>
      rw [hitem] at h
      cases hrest : rest.mapM step with
      | error other =>
        rw [hrest] at h
        cases h
        obtain ⟨found, hfound, hfails⟩ := ih hrest
        exact ⟨found, List.mem_cons_of_mem item hfound, hfails⟩
      | ok others =>
        rw [hrest] at h
        cases h

/-- Where every item has a result, a list is gone through to its end. -/
theorem exists_mapM {step : α → Except ε β} {items : List α}
    (h : ∀ item ∈ items, ∃ value, step item = .ok value) : ∃ results, items.mapM step = .ok results := by
  cases hresults : items.mapM step with
  | ok results => exact ⟨results, rfl⟩
  | error failure =>
    obtain ⟨item, hitem, hfails⟩ := exists_item_of_mapM_error hresults
    obtain ⟨value, hvalue⟩ := h item hitem
    cases hvalue.symm.trans hfails

/-- Results that are changed on the way are those that are changed at the end. -/
theorem mapM_map {γ : Type} (step : α → Except ε β) (change : β → γ) (items : List α) :
    items.mapM (fun item => (step item).map change) = (items.mapM step).map (List.map change) := by
  induction items with
  | nil => rfl
  | cons item rest ih =>
    rw [List.mapM_cons, List.mapM_cons, ih]
    cases step item with
    | error failure => rfl
    | ok value =>
      cases rest.mapM step with
      | error failure => rfl
      | ok values => rfl

/-- Going through a list part by part is going through all parts in a row. -/
theorem mapM_parts_eq_ok {γ : Type} {parts : α → Except ε (List β)} {step : β → Except ε γ}
    {items : List α} {results : List γ} :
    (∃ grouped, items.mapM (fun item => parts item >>= fun part => part.mapM step) = .ok grouped ∧
        grouped.flatten = results) ↔
      ∃ found, items.mapM parts = .ok found ∧ found.flatten.mapM step = .ok results := by
  induction items generalizing results with
  | nil =>
    constructor
    · rintro ⟨grouped, h, rfl⟩
      cases h
      exact ⟨[], rfl, rfl⟩
    · rintro ⟨found, h, hresults⟩
      cases h
      cases hresults
      exact ⟨[], rfl, rfl⟩
  | cons item rest ih =>
    simp only [List.mapM_cons, bind_eq_ok]
    constructor
    · rintro ⟨grouped, ⟨first, ⟨part, hpart, hfirst⟩, others, hothers, hgrouped⟩, rfl⟩
      cases hgrouped
      obtain ⟨found, hfound, hrest⟩ := ih.1 ⟨others, hothers, rfl⟩
      refine ⟨part :: found, ⟨part, hpart, found, hfound, rfl⟩, ?_⟩
      rw [List.flatten_cons, List.mapM_append, hfirst, hrest]
      rfl
    · rintro ⟨found, ⟨part, hpart, others, hothers, hfound⟩, hresults⟩
      cases hfound
      rw [List.flatten_cons, List.mapM_append] at hresults
      obtain ⟨first, hfirst, hrest⟩ := bind_eq_ok.1 hresults
      obtain ⟨later, hlater, hlast⟩ := bind_eq_ok.1 hrest
      cases hlast
      obtain ⟨grouped, hgrouped, rfl⟩ := ih.2 ⟨others, hothers, hlater⟩
      exact ⟨first :: grouped, ⟨first, ⟨part, hpart, hfirst⟩, grouped, hgrouped, rfl⟩, rfl⟩

/-- What a computation has failed for. -/
def failure? : Except ε α → Option ε
  | .ok _ => none
  | .error failure => some failure

theorem failure?_eq_some_iff {outcome : Except ε α} {failure : ε} :
    failure? outcome = some failure ↔ outcome = .error failure := by
  cases outcome <;> simp [failure?]

theorem failure?_eq_none_iff {outcome : Except ε α} :
    failure? outcome = none ↔ ∃ result, outcome = .ok result := by
  cases outcome <;> simp [failure?]

/-- What is kept of a list is part of it. -/
theorem sublist_of_filterM {test : α → Except ε Bool} {items kept : List α}
    (h : items.filterM test = .ok kept) : kept.Sublist items := by
  have hfrom : ∀ items before found, List.filterAuxM test items before = .ok found →
      ∃ kept : List α, kept.Sublist items ∧ found = kept.reverse ++ before := by
    intro items
    induction items with
    | nil =>
      intro before found h
      cases h
      exact ⟨[], .refl _, rfl⟩
    | cons item rest ih =>
      intro before found h
      obtain ⟨keeps, -, hrest⟩ := bind_eq_ok.1 h
      cases keeps with
      | true =>
        obtain ⟨kept, hkept, rfl⟩ := ih _ _ hrest
        exact ⟨item :: kept, hkept.cons_cons item, by simp⟩
      | false =>
        obtain ⟨kept, hkept, rfl⟩ := ih _ _ hrest
        exact ⟨kept, hkept.cons item, rfl⟩
  obtain ⟨found, hfound, hkept⟩ := bind_eq_ok.1 h
  obtain ⟨kept, hsub, rfl⟩ := hfrom _ _ _ hfound
  cases hkept
  simpa using hsub

/-- Where no test fails, a list is filtered by what the tests say. -/
theorem filterM_of_forall {test : α → Except ε Bool} {keeps : α → Bool} {items : List α}
    (h : ∀ item ∈ items, test item = .ok (keeps item)) :
    items.filterM test = .ok (items.filter keeps) := by
  have hfrom : ∀ items before, (∀ item ∈ items, test item = .ok (keeps item)) →
      List.filterAuxM test items before = .ok ((items.filter keeps).reverse ++ before) := by
    intro items
    induction items with
    | nil => exact fun _ _ => rfl
    | cons item rest ih =>
      intro before h
      rw [List.forall_mem_cons] at h
      rw [List.filterAuxM, h.1, List.filter_cons]
      cases hitem : keeps item with
      | true =>
        change List.filterAuxM test rest (item :: before) = _
        rw [ih _ h.2, if_pos rfl, List.reverse_cons, List.append_assoc]
        rfl
      | false =>
        change List.filterAuxM test rest before = _
        rw [ih _ h.2, if_neg Bool.false_ne_true]
  rw [List.filterM, hfrom items [] h]
  change Except.ok ((items.filter keeps).reverse ++ []).reverse = _
  rw [List.append_nil, List.reverse_reverse]

end KotlinAudit.Outcome
