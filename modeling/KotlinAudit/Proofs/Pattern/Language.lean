import KotlinAudit.Pattern.Search

/-! The language of a pattern. The search goes onward from the ends of all ways to match in turn, so it
comes to an end exactly if it does from one of them; which way is preferred does not matter for that. -/
namespace KotlinAudit

/-- The place after some characters have been passed. -/
def Cursor.forward (cursor : Cursor) (passed : List Char) : Cursor :=
  ⟨passed.reverse ++ cursor.before, cursor.after.drop passed.length,
    cursor.position + passed.length, cursor.groups⟩

namespace Cursor

@[simp] theorem forward_forward (cursor : Cursor) (passed more : List Char) :
    (cursor.forward passed).forward more = cursor.forward (passed ++ more) := by
  simp only [forward, List.reverse_append, List.append_assoc, List.drop_drop, List.length_append,
    Nat.add_assoc]

/-- One character further. -/
theorem forward_one (cursor : Cursor) (c : Char) : cursor.forward [c] =
    ⟨c :: cursor.before, cursor.after.tail, cursor.position + 1, cursor.groups⟩ := by
  rw [forward, ← List.drop_one]
  rfl

theorem after_forward {cursor : Cursor} {passed rest : List Char}
    (h : cursor.after = passed ++ rest) : (cursor.forward passed).after = rest := by
  rw [forward, h, List.drop_left]

end Cursor

namespace Pattern

/-- The texts that a pattern matches are those of a language, wherever they stand. -/
def Denotes (pattern : Pattern) (language : List Char → Prop) : Prop :=
  ∀ (onward : Onward) (cursor : Cursor), (pattern.firstEnd onward cursor).isSome = true ↔
    ∃ passed rest, cursor.after = passed ++ rest ∧ language passed ∧
      (onward (cursor.forward passed)).isSome = true

variable {first second : Pattern} {language other : List Char → Prop}

theorem Denotes.congr (h : first.Denotes language) (hsame : ∀ text, language text ↔ other text) :
    first.Denotes other := by
  intro onward cursor
  simp only [h onward cursor, hsame]

theorem denotes_empty : empty.Denotes (· = []) := by
  intro onward cursor
  constructor
  · intro h
    exact ⟨[], cursor.after, rfl, rfl, h⟩
  · rintro ⟨passed, rest, -, rfl, h⟩
    exact h

theorem denotes_char (accepts : Char → Bool) :
    (char accepts).Denotes fun text => ∃ c, text = [c] ∧ accepts c = true := by
  intro onward cursor
  obtain ⟨before, after, position, groups⟩ := cursor
  cases after with
  | nil =>
    refine iff_of_false nofun ?_
    rintro ⟨passed, rest, hafter, ⟨c, rfl, -⟩, -⟩
    cases hafter
  | cons c after =>
    rw [firstEnd, Cursor.step?]
    dsimp only
    by_cases haccepts : accepts c = true
    · rw [if_pos haccepts]
      constructor
      · intro h
        exact ⟨[c], after, rfl, ⟨c, rfl, haccepts⟩, h⟩
      · rintro ⟨passed, rest, hafter, ⟨d, rfl, -⟩, h⟩
        obtain ⟨rfl, -⟩ := List.cons.inj hafter
        exact h
    · rw [if_neg haccepts]
      refine iff_of_false nofun ?_
      rintro ⟨passed, rest, hafter, ⟨d, rfl, hd⟩, -⟩
      obtain ⟨rfl, -⟩ := List.cons.inj hafter
      exact haccepts hd

theorem Denotes.seq (hfirst : first.Denotes language) (hsecond : second.Denotes other) :
    (seq first second).Denotes fun text =>
      ∃ front back, text = front ++ back ∧ language front ∧ other back := by
  intro onward cursor
  rw [firstEnd, hfirst]
  constructor
  · rintro ⟨front, rest, hafter, hfront, h⟩
    obtain ⟨back, others, hrest, hback, h⟩ := (hsecond onward _).1 h
    rw [Cursor.after_forward hafter] at hrest
    rw [Cursor.forward_forward] at h
    exact ⟨front ++ back, others, by rw [hafter, hrest, List.append_assoc],
      ⟨front, back, rfl, hfront, hback⟩, h⟩
  · rintro ⟨passed, rest, hafter, ⟨front, back, rfl, hfront, hback⟩, h⟩
    rw [List.append_assoc] at hafter
    refine ⟨front, back ++ rest, hafter, hfront, (hsecond onward _).2 ⟨back, rest, ?_, hback, ?_⟩⟩
    · exact Cursor.after_forward hafter
    · rwa [Cursor.forward_forward]

/-! ### Any number of accepted characters -/

/-- The places on the way through accepted characters. -/
theorem mem_placesThrough {accepts : Char → Bool} {chars : List Char} {cursor place : Cursor}
    {passed : List Cursor} (h : chars <+: cursor.after) :
    place ∈ placesThrough accepts chars cursor passed ↔ place ∈ passed ∨
      ∃ front back, chars = front ++ back ∧ (∀ c ∈ front, accepts c = true) ∧
        place = cursor.forward front := by
  induction chars generalizing cursor passed with
  | nil =>
    rw [placesThrough, List.mem_cons]
    constructor
    · rintro (rfl | hpassed)
      · exact .inr ⟨[], [], rfl, fun _ hc => absurd hc List.not_mem_nil, rfl⟩
      · exact .inl hpassed
    · rintro (hpassed | ⟨front, back, heq, -, rfl⟩)
      · exact .inr hpassed
      · obtain ⟨rfl, -⟩ := List.append_eq_nil_iff.1 heq.symm
        exact .inl rfl
  | cons c rest ih =>
    have hstart : ∀ place, place = cursor → ∃ front back, c :: rest = front ++ back ∧
        (∀ c ∈ front, accepts c = true) ∧ place = cursor.forward front :=
      fun place heq => ⟨[], c :: rest, rfl, fun _ hc => absurd hc List.not_mem_nil, heq⟩
    rw [placesThrough]
    split
    · next haccepts =>
      have hrest : rest <+: (cursor.forward [c]).after := by
        obtain ⟨others, hafter⟩ := h
        exact ⟨others, (@Cursor.after_forward cursor [c] _ hafter.symm).symm⟩
      rw [← Cursor.forward_one, ih hrest, List.mem_cons]
      constructor
      · rintro ((heq | hpassed) | ⟨front, back, rfl, hall, rfl⟩)
        · exact .inr (hstart place heq)
        · exact .inl hpassed
        · rw [Cursor.forward_forward]
          exact .inr ⟨c :: front, back, rfl, List.forall_mem_cons.2 ⟨haccepts, hall⟩, rfl⟩
      · rintro (hpassed | ⟨front, back, heq, hall, rfl⟩)
        · exact .inl (.inr hpassed)
        · cases front with
          | nil => exact .inl (.inl rfl)
          | cons d front =>
            obtain ⟨rfl, rfl⟩ := List.cons.inj heq
            refine .inr ⟨front, back, rfl, (List.forall_mem_cons.1 hall).2, ?_⟩
            rw [Cursor.forward_forward]
            rfl
    · next hrefuses =>
      rw [List.mem_cons]
      constructor
      · rintro (heq | hpassed)
        · exact .inr (hstart place heq)
        · exact .inl hpassed
      · rintro (hpassed | ⟨front, back, heq, hall, rfl⟩)
        · exact .inr hpassed
        · cases front with
          | nil => exact .inl rfl
          | cons d front =>
            obtain ⟨rfl, -⟩ := List.cons.inj heq
            exact absurd (hall _ List.mem_cons_self) hrefuses

theorem denotes_many (accepts : Char → Bool) :
    (many (char accepts)).Denotes fun text => ∀ c ∈ text, accepts c = true := by
  intro onward cursor
  have hway : (many (char accepts)).firstEnd onward cursor =
      (placesThrough accepts cursor.after cursor []).findSome? onward := rfl
  rw [hway, List.findSome?_isSome_iff]
  constructor
  · rintro ⟨place, hplace, h⟩
    rcases (mem_placesThrough (List.prefix_refl _)).1 hplace with hnone | ⟨front, back, hafter, hall, rfl⟩
    · exact absurd hnone List.not_mem_nil
    · exact ⟨front, back, hafter, hall, h⟩
  · rintro ⟨passed, rest, hafter, hall, h⟩
    exact ⟨_, (mem_placesThrough (List.prefix_refl _)).2 (.inr ⟨passed, rest, hafter, hall, rfl⟩), h⟩

/-- The whole of a text is matched exactly if it belongs to the language. -/
theorem Denotes.matchesWhole_iff (h : first.Denotes language) (text : List Char) :
    first.matchesWhole text = true ↔ language text := by
  unfold matchesWhole matchWhole?
  rw [h]
  constructor
  · rintro ⟨passed, rest, hafter, hpassed, hend⟩
    rw [Cursor.after_forward hafter] at hend
    cases rest with
    | nil =>
      rw [List.append_nil] at hafter
      rwa [show text = passed from hafter]
    | cons c rest => cases hend
  · intro htext
    refine ⟨text, [], (List.append_nil text).symm, htext, ?_⟩
    rw [Cursor.after_forward (List.append_nil text).symm]
    rfl

end Pattern
end KotlinAudit
