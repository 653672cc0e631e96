import KotlinAudit.Text.Utf8
import Mathlib.Tactic.Common

/-! Characters as octets. What has been written as octets is read back, and every octet that is written
is one. -/
namespace KotlinAudit.Text.Utf8

variable {c : Char} {octet : Nat}

/-- The numbers of characters leave out the halves of surrogate pairs. -/
theorem toNat_range (c : Char) : c.toNat < 0xD800 ∨ 0xDFFF < c.toNat ∧ c.toNat < 0x110000 :=
  c.valid

theorem readFrom_none (octet : Nat) (rest : List Nat) :
    readFrom none (octet :: rest) = match begin octet with
      | .inl c => c :: readFrom none rest
      | .inr pending => readFrom (some pending) rest := by
  rw [readFrom, next, resume]
  cases begin octet <;> rfl

/-- The last octet of a character completes it. -/
theorem readFrom_last {least most octet : Nat} (hleast : least ≤ octet) (hmost : octet ≤ most)
    (value : Nat) (rest : List Nat) :
    readFrom (some ⟨1, least, most, value⟩) (octet :: rest) =
      Char.ofNat (value * 64 + (octet - 0x80)) :: readFrom none rest := by
  rw [readFrom, next, if_pos (by simp [hleast, hmost])]
  rfl

theorem readFrom_more {least most octet : Nat} (hleast : least ≤ octet) (hmost : octet ≤ most)
    (owed value : Nat) (rest : List Nat) :
    readFrom (some ⟨owed + 2, least, most, value⟩) (octet :: rest) =
      readFrom (some ⟨owed + 1, 0x80, 0xBF, value * 64 + (octet - 0x80)⟩) rest := by
  rw [readFrom, next, if_pos (by simp [hleast, hmost])]
  rfl

/-- A character is read from its octets, whatever comes behind them. -/
theorem readFrom_writeChar (c : Char) (rest : List Nat) :
    readFrom none (writeChar c ++ rest) = c :: readFrom none rest := by
  have hrange := toNat_range c
  have hsame : ∀ value, value = c.toNat → Char.ofNat value = c := by
    rintro value rfl
    exact Char.ofNat_toNat c
  unfold writeChar
  dsimp only
  split_ifs with hone htwo hthree
  · rw [List.singleton_append, readFrom_none, begin, if_pos hone, hsame _ rfl]
  · rw [List.cons_append, List.singleton_append, readFrom_none, begin, if_neg (by omega),
      if_neg (by omega), if_pos (by omega)]
    dsimp only
    rw [readFrom_last (by omega) (by omega), hsame]
    omega
  · rw [List.cons_append, List.cons_append, List.singleton_append, readFrom_none, begin,
      if_neg (by omega), if_neg (by omega), if_neg (by omega), if_pos (by omega)]
    dsimp only
    rw [readFrom_more (by split <;> omega) (by split <;> omega), readFrom_last (by omega) (by omega),
      hsame]
    omega
  · rw [List.cons_append, List.cons_append, List.cons_append, List.singleton_append, readFrom_none,
      begin, if_neg (by omega), if_neg (by omega), if_neg (by omega), if_neg (by omega),
      if_pos (by omega)]
    dsimp only
    rw [readFrom_more (by split <;> omega) (by split <;> omega), readFrom_more (by omega) (by omega),
      readFrom_last (by omega) (by omega), hsame]
    omega

/-- What has been written as octets is read back. -/
theorem read_write (text : List Char) : read (write text) = text := by
  induction text with
  | nil => rfl
  | cons c rest ih =>
    rw [read, write, List.flatMap_cons, readFrom_writeChar]
    exact congrArg (c :: ·) ih

theorem lt_of_mem_writeChar (h : octet ∈ writeChar c) : octet < 256 := by
  have hrange := toNat_range c
  unfold writeChar at h
  dsimp only at h
  split_ifs at h <;> simp only [List.mem_cons, List.not_mem_nil, or_false] at h <;> omega

theorem lt_of_mem_write {text : List Char} (h : octet ∈ write text) : octet < 256 := by
  obtain ⟨c, -, hc⟩ := List.mem_flatMap.1 h
  exact lt_of_mem_writeChar hc

end KotlinAudit.Text.Utf8
