import FormReply.Text.Numeral

/-!
# What a numeral says

Digits are read as the number that they stand for, if that lies within the bound.

* `readDigits_eq_ok_iff`: what is read from digits;
* `Spells`, `read_eq_ok_iff`: the numerals of a number, and that they are read as it.
-/

namespace FormReply.Numeral

theorem isDigit_of_mem_toDigits {n : Nat} {c : Char} (h : c ∈ Nat.toDigits 10 n) :
    c.isDigit = true := Nat.isDigit_of_mem_toDigits (by decide) (by decide) h

theorem range_of_isDigit {c : Char} (h : c.isDigit = true) : 0x30 ≤ c.toNat ∧ c.toNat ≤ 0x39 := by
  simpa [Char.isDigit, UInt32.le_iff_toNat_le] using h

/-- More digits never make a number smaller. -/
theorem le_ofDigitChars (digits : List Char) (value : Nat) :
    value ≤ Nat.ofDigitChars 10 digits value := by
  induction digits generalizing value with
  | nil => exact Nat.le_refl value
  | cons c rest ih =>
    rw [Nat.ofDigitChars_cons]
    exact Nat.le_trans (by omega) (ih (10 * value + (c.toNat - '0'.toNat)))

/-- **What is read from digits** is the number that they stand for; anything else, and a number
beyond the bound, is refused. -/
theorem readDigits_eq_ok_iff {bound value n : Nat} {digits : List Char} (hv : value ≤ bound) :
    readDigits bound value digits = .ok n ↔
      (∀ c ∈ digits, c.isDigit = true) ∧ Nat.ofDigitChars 10 digits value = n ∧ n ≤ bound := by
  induction digits generalizing value with
  | nil =>
    rw [readDigits, Except.ok.injEq, Nat.ofDigitChars_nil]
    constructor
    · rintro rfl
      exact ⟨by simp, rfl, hv⟩
    · exact fun h => h.2.1
  | cons c rest ih =>
    have hnext : value * 10 + digitValue c = 10 * value + (c.toNat - '0'.toNat) := by
      rw [digitValue, Nat.mul_comm]
    rw [readDigits, Nat.ofDigitChars_cons, ← hnext]
    by_cases hc : c.isDigit = true
    · by_cases hle : value * 10 + digitValue c ≤ bound
      · simp only [hc, hle, if_true, ih hle, List.mem_cons, forall_eq_or_imp, true_and]
      · -- The digits behind a number beyond the bound do not bring it back.
        have hbeyond := le_ofDigitChars rest (value * 10 + digitValue c)
        simp only [hc, hle, if_true, if_false, reduceCtorEq, false_iff]
        rintro ⟨-, h, hn⟩
        omega
    · simp [hc]

/-- The text is a numeral of the number: one or more digits that stand for it, and an optional `+`
before them. -/
def Spells (n : Nat) (text : List Char) : Prop :=
  ∃ digits, (text = digits ∨ text = '+' :: digits) ∧ digits ≠ [] ∧
    (∀ c ∈ digits, c.isDigit = true) ∧ Nat.ofDigitChars 10 digits 0 = n

theorem read_plus (bound : Nat) {digits : List Char} (h : digits ≠ []) :
    read bound ('+' :: digits) = readDigits bound 0 digits := by
  cases digits with
  | nil => exact absurd rfl h
  | cons c rest => rfl

theorem read_of_head? (bound : Nat) {digits : List Char} (h : digits ≠ [])
    (hplus : digits.head? ≠ some '+') : read bound digits = readDigits bound 0 digits := by
  unfold read
  split
  · exact absurd rfl h
  · exact absurd rfl hplus
  · exact absurd rfl hplus
  · rfl

/-- **What is read from a text** is the number that it is a numeral of, within the bound. -/
theorem read_eq_ok_iff {bound n : Nat} {text : List Char} :
    read bound text = .ok n ↔ Spells n text ∧ n ≤ bound := by
  have hdigits : ∀ digits, readDigits bound 0 digits = .ok n ↔ (∀ c ∈ digits, c.isDigit = true) ∧
      Nat.ofDigitChars 10 digits 0 = n ∧ n ≤ bound := fun _ =>
    readDigits_eq_ok_iff (Nat.zero_le bound)
  constructor
  · intro h
    by_cases hplus : text.head? = some '+'
    · obtain ⟨digits, rfl⟩ := List.head?_eq_some_iff.1 hplus
      have hne : digits ≠ [] := by
        rintro rfl
        simp [read] at h
      rw [read_plus bound hne, hdigits] at h
      exact ⟨⟨digits, Or.inr rfl, hne, h.1, h.2.1⟩, h.2.2⟩
    · have hne : text ≠ [] := by
        rintro rfl
        simp [read] at h
      rw [read_of_head? bound hne hplus, hdigits] at h
      exact ⟨⟨text, Or.inl rfl, hne, h.1, h.2.1⟩, h.2.2⟩
  · rintro ⟨⟨digits, rfl | rfl, hne, hd, hn⟩, hle⟩
    · have hplus : text.head? ≠ some '+' := fun h =>
        absurd (hd '+' (List.mem_of_mem_head? h)) (by decide)
      rw [read_of_head? bound hne hplus]
      exact (hdigits text).2 ⟨hd, hn, hle⟩
    · rw [read_plus bound hne]
      exact (hdigits digits).2 ⟨hd, hn, hle⟩

end FormReply.Numeral
