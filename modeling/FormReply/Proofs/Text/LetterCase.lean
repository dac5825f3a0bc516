import FormReply.Text.Blank
import FormReply.Text.Token

/-!
# Blanks, tokens and the case of letters

Tokens are made of visible ASCII characters, so no blank stands in one.  Lowering a letter gives a
letter and leaves everything else as it is: it makes and removes no blank, no token character and no
mark.

* `isToken_of_isBlank`: a blank is no part of a token;
* `isToken_toLower`, `isBlank_toLower`, `toLower_eq_iff`: what does not depend on the case;
* `exists_pads_of_map_toLower`: texts that differ in the case of letters begin and end with as many
  blanks;
* `trim_map_toLower`: trimming and lowering.
-/

namespace FormReply.Text

theorem range_of_isAlphanum {c : Char} (h : c.isAlphanum = true) :
    0x30 ≤ c.toNat ∧ c.toNat ≤ 0x7A := by
  change (c.isUpper || c.isLower || c.isDigit) = true at h
  rw [Bool.or_eq_true, Bool.or_eq_true] at h
  have hrange : (65 ≤ c.toNat ∧ c.toNat ≤ 90) ∨ (97 ≤ c.toNat ∧ c.toNat ≤ 122) ∨
      (48 ≤ c.toNat ∧ c.toNat ≤ 57) := by
    rcases h with (h | h) | h
    · exact Or.inl (of_decide_eq_true h)
    · exact Or.inr (Or.inl ((Bool.and_eq_true_iff.1 h).imp of_decide_eq_true of_decide_eq_true))
    · exact Or.inr (Or.inr ((Bool.and_eq_true_iff.1 h).imp of_decide_eq_true of_decide_eq_true))
  omega

theorem range_of_isToken {c : Char} (h : isToken c = true) : 0x21 ≤ c.toNat ∧ c.toNat ≤ 0x7E := by
  rw [isToken, Bool.or_eq_true] at h
  rcases h with h | h
  · have := range_of_isAlphanum h
    omega
  · have hmarks : ∀ d ∈ tokenMarks, 0x21 ≤ d.toNat ∧ d.toNat ≤ 0x7E := by simp [tokenMarks]
    exact hmarks c (List.contains_iff_mem.1 h)

/-- A blank is no part of a token. -/
theorem isToken_of_isBlank {c : Char} (h : isBlank c = true) : isToken c = false := by
  rw [Bool.eq_false_iff]
  intro ht
  have hrange := range_of_isToken ht
  simp only [isBlank, Bool.or_eq_true, Bool.and_eq_true, decide_eq_true_eq, beq_iff_eq] at h
  omega

/-! ### The case of letters -/

theorem isLower_toLower {c : Char} (h : c.isUpper = true) : c.toLower.isLower = true := by
  have hrange : c.val ≥ 'A'.val ∧ c.val ≤ 'Z'.val := of_decide_eq_true h
  have hbounds : 65 ≤ c.val.toNat ∧ c.val.toNat ≤ 90 := hrange
  have hval : c.toLower.val.toNat = c.val.toNat + 32 := by
    have hlower : c.toLower.val = c.val + 32 := congrArg Char.val (dif_pos hrange)
    rw [hlower, UInt32.toNat_add]
    show (c.val.toNat + 32) % 4294967296 = _
    omega
  unfold Char.isLower
  rw [Bool.and_eq_true, decide_eq_true_iff, decide_eq_true_iff]
  show 97 ≤ c.toLower.val.toNat ∧ c.toLower.val.toNat ≤ 122
  omega

/-- Only letters have a case. -/
theorem toLower_cases (c : Char) :
    c.toLower = c ∨ (c.isAlpha = true ∧ c.toLower.isAlpha = true) := by
  by_cases h : c.isUpper = true
  · have hc : c.isAlpha = true := Bool.or_eq_true_iff.2 (Or.inl h)
    exact Or.inr ⟨hc, Bool.or_eq_true_iff.2 (Or.inr (isLower_toLower h))⟩
  · exact Or.inl (dif_neg fun hrange => h (decide_eq_true hrange))

theorem isToken_of_isAlpha {c : Char} (h : c.isAlpha = true) : isToken c = true := by
  rw [isToken, Char.isAlphanum, h, Bool.true_or, Bool.true_or]

@[simp] theorem isToken_toLower (c : Char) : isToken c.toLower = isToken c := by
  rcases toLower_cases c with h | ⟨h, hl⟩
  · rw [h]
  · rw [isToken_of_isAlpha h, isToken_of_isAlpha hl]

@[simp] theorem isBlank_toLower (c : Char) : isBlank c.toLower = isBlank c := by
  have hblank : ∀ {d : Char}, d.isAlpha = true → isBlank d = false := by
    intro d hd
    rw [Bool.eq_false_iff]
    intro hb
    have ht := isToken_of_isAlpha hd
    rw [isToken_of_isBlank hb] at ht
    exact Bool.false_ne_true ht
  rcases toLower_cases c with h | ⟨h, hl⟩
  · rw [h]
  · rw [hblank h, hblank hl]

/-- Lowering gives a mark only for itself. -/
theorem toLower_eq_iff {c d : Char} (hd : d.isAlpha = false) : c.toLower = d ↔ c = d := by
  rcases toLower_cases c with h | ⟨h, hl⟩
  · rw [h]
  · constructor
    · rintro rfl
      rw [hl] at hd
      exact absurd hd (by decide)
    · rintro rfl
      rw [h] at hd
      exact absurd hd (by decide)

/-! ### Texts that differ in the case of letters -/

variable {text text' : List Char}

theorem eq_nil_iff_of_map_toLower (h : text'.map Char.toLower = text.map Char.toLower) :
    text' = [] ↔ text = [] := by
  rw [← List.map_eq_nil_iff (f := Char.toLower), h, List.map_eq_nil_iff]

theorem all_isBlank_of_map_toLower (h : text'.map Char.toLower = text.map Char.toLower)
    (ht : ∀ c ∈ text, isBlank c = true) : ∀ c ∈ text', isBlank c = true := by
  intro c hc
  have hm : c.toLower ∈ text.map Char.toLower := h ▸ List.mem_map_of_mem hc
  obtain ⟨d, hd, he⟩ := List.mem_map.1 hm
  rw [← isBlank_toLower, ← he, isBlank_toLower]
  exact ht d hd

theorem dropWhile_isBlank_map_toLower (text : List Char) :
    (text.map Char.toLower).dropWhile isBlank = (text.dropWhile isBlank).map Char.toLower := by
  have hcomp : isBlank ∘ Char.toLower = isBlank := funext isBlank_toLower
  rw [List.dropWhile_map, hcomp]

/-- Trimming does not depend on the case. -/
theorem trim_map_toLower (text : List Char) :
    trim (text.map Char.toLower) = (trim text).map Char.toLower := by
  rw [trim, dropWhile_isBlank_map_toLower, ← List.map_reverse, dropWhile_isBlank_map_toLower,
    ← List.map_reverse, trim]

/-- **Texts that differ in the case of letters** are cut in the same places by trimming one of them.
-/
theorem exists_pads_of_map_toLower (h : text'.map Char.toLower = text.map Char.toLower) :
    ∃ a b a' b' middle, text = a ++ trim text ++ b ∧ text' = a' ++ middle ++ b' ∧
      middle.map Char.toLower = (trim text).map Char.toLower ∧
      (∀ c ∈ a ++ b, isBlank c = true) ∧ (∀ c ∈ a' ++ b', isBlank c = true) ∧
      (a' = [] ↔ a = []) ∧ (b' = [] ↔ b = []) := by
  obtain ⟨a, b, ha, hb, htext⟩ := exists_pad_trim text
  have hcut := h
  rw [htext, List.map_append, List.map_append, List.map_eq_append_iff] at hcut
  obtain ⟨front, b', rfl, hfront, hb'⟩ := hcut
  obtain ⟨a', middle, rfl, ha', hmiddle⟩ := List.map_eq_append_iff.1 hfront
  exact ⟨a, b, a', b', middle, htext, rfl, hmiddle, List.forall_mem_append.2 ⟨ha, hb⟩,
    List.forall_mem_append.2 ⟨all_isBlank_of_map_toLower ha' ha, all_isBlank_of_map_toLower hb' hb⟩,
    eq_nil_iff_of_map_toLower ha', eq_nil_iff_of_map_toLower hb'⟩

end FormReply.Text
