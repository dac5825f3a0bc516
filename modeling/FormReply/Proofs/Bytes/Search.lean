import FormReply.Bytes
import Mathlib.Data.List.Infix

/-!
# What a search finds

A pattern comes *first behind* a byte string if it does not occur earlier in the two put together.
A search succeeds at exactly the place where the pattern comes first, so its result is known for
any byte string that is put together from known pieces.

* `breakOn?_eq_some_iff`: the two pieces around the first occurrence;
* `firstBehind_of_not_infix`, `firstBehind_of_count`, `firstBehind_crlf`: three ways to see that a
  pattern comes first.
-/

namespace FormReply.Bytes

/-- Behind `before`, the pattern occurs for the first time. -/
def FirstBehind (pattern before : Bytes) : Prop := ¬ pattern <:+: (before ++ pattern).dropLast

instance (pattern before : Bytes) : Decidable (FirstBehind pattern before) :=
  inferInstanceAs (Decidable ¬ _)

theorem firstBehind_nil {pattern : Bytes} (hp : pattern ≠ []) : FirstBehind pattern [] := by
  intro h
  have hle := h.length_le
  have hpos := List.length_pos_iff.2 hp
  simp only [List.nil_append, List.length_dropLast] at hle
  omega

/-- A pattern that comes first behind a byte string comes first behind what is left of it. -/
theorem FirstBehind.of_cons {pattern before : Bytes} {b : UInt8} (hp : pattern ≠ [])
    (h : FirstBehind pattern (b :: before)) :
    FirstBehind pattern before ∧ ¬ pattern <+: (b :: before ++ pattern).dropLast := by
  have hne : before ++ pattern ≠ [] := by simp [hp]
  unfold FirstBehind at h ⊢
  rw [List.cons_append, List.dropLast_cons_of_ne_nil hne] at h ⊢
  exact ⟨fun hi => h (List.infix_cons hi), fun hpre => h hpre.isInfix⟩

/-! ### The search -/

theorem firstBehind_of_breakOn? {pattern s before after : Bytes} (hp : pattern ≠ [])
    (h : breakOn? pattern s = some (before, after)) : FirstBehind pattern before := by
  induction s generalizing before with
  | nil =>
    have hs := breakOn?_eq_some h
    simp [hp] at hs
  | cons b rest ih =>
    cases hd : dropPrefix? pattern (b :: rest) with
    | some t =>
      rw [breakOn?_of_dropPrefix? hd, Option.some.injEq, Prod.mk.injEq] at h
      rw [← h.1]
      exact firstBehind_nil hp
    | none =>
      rw [breakOn?_cons hd, Option.map_eq_some_iff] at h
      obtain ⟨⟨u, v⟩, hr, huv⟩ := h
      obtain ⟨rfl, rfl⟩ : b :: u = before ∧ v = after := by simpa using huv
      intro hi
      have hne : u ++ pattern ≠ [] := by simp [hp]
      rw [List.cons_append, List.dropLast_cons_of_ne_nil hne, List.infix_cons_iff] at hi
      rcases hi with hi | hi
      · -- The pattern would stand at the very start, where it has just been missed.
        have hpre : pattern <+: b :: rest := by
          rw [breakOn?_eq_some hr]
          refine hi.trans ?_
          exact List.cons_prefix_cons.2
            ⟨rfl, (List.dropLast_prefix _).trans (List.prefix_append _ _)⟩
        obtain ⟨t, ht⟩ := hpre
        rw [dropPrefix?_eq_some_iff.2 ht.symm] at hd
        exact absurd hd (by simp)
      · exact ih hr hi

theorem breakOn?_of_firstBehind {pattern before : Bytes} (hp : pattern ≠ [])
    (h : FirstBehind pattern before) (after : Bytes) :
    breakOn? pattern (before ++ pattern ++ after) = some (before, after) := by
  induction before with
  | nil =>
    rw [List.nil_append]
    exact breakOn?_of_dropPrefix? (dropPrefix?_eq_some_iff.2 rfl)
  | cons b before ih =>
    obtain ⟨hb, hpre⟩ := h.of_cons hp
    have hd : dropPrefix? pattern (b :: (before ++ pattern ++ after)) = none := by
      cases hd : dropPrefix? pattern (b :: (before ++ pattern ++ after)) with
      | none => rfl
      | some t =>
        refine absurd ?_ hpre
        -- Both are beginnings of the same byte string, and the pattern is no longer.
        have h₁ : pattern <+: b :: before ++ pattern ++ after :=
          ⟨t, (dropPrefix?_eq_some_iff.1 hd).symm⟩
        have h₂ : (b :: before ++ pattern).dropLast <+: b :: before ++ pattern ++ after :=
          (List.dropLast_prefix _).trans (List.prefix_append _ _)
        exact List.prefix_of_prefix_length_le h₁ h₂ (by simp)
    rw [List.cons_append, List.cons_append, breakOn?_cons hd, ih hb]
    rfl

/-- **The two pieces around the first occurrence** of a pattern. -/
theorem breakOn?_eq_some_iff {pattern s before after : Bytes} (hp : pattern ≠ []) :
    breakOn? pattern s = some (before, after) ↔
      s = before ++ pattern ++ after ∧ FirstBehind pattern before := by
  constructor
  · intro h
    exact ⟨breakOn?_eq_some h, firstBehind_of_breakOn? hp h⟩
  · rintro ⟨rfl, h⟩
    exact breakOn?_of_firstBehind hp h after

/-! ### Where a pattern comes first -/

/-- A pattern without the byte `x` does not reach across an `x`. -/
theorem infix_append_cons_iff {pattern a b : Bytes} {x : UInt8} (hx : x ∉ pattern) :
    pattern <:+: a ++ x :: b ↔ pattern <:+: a ∨ pattern <:+: b := by
  constructor
  · intro h
    rw [List.infix_append_iff] at h
    rcases h with h | h | ⟨l₁, l₂, hl, h₁, h₂⟩
    · exact Or.inl h
    · rw [List.infix_cons_iff] at h
      rcases h with h | h
      · cases pattern with
        | nil => exact Or.inl List.nil_infix
        | cons c pattern =>
          obtain ⟨rfl, -⟩ := List.cons_prefix_cons.1 h
          exact absurd (List.mem_cons_self) hx
      · exact Or.inr h
    · cases l₂ with
      | nil =>
        rw [List.append_nil] at hl
        exact Or.inl (hl ▸ h₁.isInfix)
      | cons c l₂ =>
        obtain ⟨rfl, -⟩ := List.cons_prefix_cons.1 h₂
        exact absurd (by simp [hl]) hx
  · rintro (h | h)
    · exact List.infix_append_of_infix_left h
    · exact List.infix_append_of_infix_right (List.infix_cons h)

/-- A pattern whose first byte does not come again in it comes first behind any byte string in
which it does not occur. -/
theorem firstBehind_of_not_infix {c : UInt8} {pattern before : Bytes} (hc : c ∉ pattern)
    (h : ¬ (c :: pattern) <:+: before) : FirstBehind (c :: pattern) before := by
  intro hi
  rw [List.dropLast_append_of_ne_nil (by simp), List.infix_append_iff] at hi
  rcases hi with hi | hi | ⟨l₁, l₂, hl, h₁, h₂⟩
  · exact h hi
  · have hle := hi.length_le
    simp only [List.length_dropLast, List.length_cons] at hle
    omega
  · -- The pattern would reach across the seam, so its first byte would come again at the seam.
    cases l₂ with
    | nil => exact h (by rw [hl, List.append_nil]; exact h₁.isInfix)
    | cons d l₂ =>
      have hd : d = c := by
        obtain ⟨t, ht⟩ := h₂.trans (List.dropLast_prefix (c :: pattern))
        exact (List.cons.inj ht).1
      cases l₁ with
      | nil =>
        have hle := h₂.length_le
        rw [List.nil_append] at hl
        rw [← hl, List.length_dropLast, List.length_cons] at hle
        omega
      | cons e l₁ =>
        have hp := (List.cons.inj hl).2
        exact hc (by rw [hp, hd]; simp)

/-- A pattern comes first behind a byte string without its last byte, if that byte does not come
earlier in the pattern. -/
theorem firstBehind_of_count {pattern before : Bytes} {x : UInt8} (hx : x ∉ before)
    (hp : pattern.dropLast.count x < pattern.count x) : FirstBehind pattern before := by
  intro h
  have hne : pattern ≠ [] := by rintro rfl; simp at hp
  have hle := h.sublist.count_le x
  rw [List.dropLast_append_of_ne_nil hne, List.count_append, List.count_eq_zero.2 hx] at hle
  omega

/-- A pattern without line ends that does not occur in a byte string comes first behind that byte
string and a line end. -/
theorem firstBehind_crlf {pattern before : Bytes} (hp : pattern ≠ []) (hcr : 13 ∉ pattern)
    (hlf : 10 ∉ pattern) (h : ¬ pattern <:+: before) : FirstBehind pattern (before ++ crlf) := by
  unfold FirstBehind
  rw [List.dropLast_append_of_ne_nil hp, crlf, List.append_assoc, List.cons_append,
    infix_append_cons_iff hcr, List.cons_append, List.nil_append, ← List.nil_append (10 :: _),
    infix_append_cons_iff hlf]
  rintro (hi | hi | hi)
  · exact h hi
  · exact hp (List.infix_nil.1 hi)
  · have hle := hi.length_le
    have hpos := List.length_pos_iff.2 hp
    rw [List.length_dropLast] at hle
    omega

end FormReply.Bytes
