/-!
# Byte strings

A byte string is a list of bytes.  A search cuts it at the first occurrence of a pattern; what it
finds is pinned down by the infix relation.

* `breakOn?_eq_some`: the two pieces and the pattern between them make up the byte string;
* `breakOn?_eq_none_iff`: the search fails exactly when the pattern does not occur.
-/

namespace FormReply

/-- A byte string. -/
abbrev Bytes := List UInt8

namespace Bytes

/-- The UTF-8 bytes of a text. -/
def ofString (s : String) : Bytes := s.toList.flatMap String.utf8EncodeChar

/-- The bytes as a compact array. -/
def toByteArray (b : Bytes) : ByteArray := List.toByteArray b

/-- The carriage return and the line feed that end a line of a network message. -/
def crlf : Bytes := [13, 10]

/-- The bytes behind a pattern that a byte string begins with. -/
def dropPrefix? : Bytes → Bytes → Option Bytes
  | [], s => some s
  | _ :: _, [] => none
  | p :: pattern, b :: s => if p = b then dropPrefix? pattern s else none

theorem dropPrefix?_eq_some_iff {pattern s after : Bytes} :
    dropPrefix? pattern s = some after ↔ s = pattern ++ after := by
  induction pattern generalizing s with
  | nil => simp [dropPrefix?]
  | cons p pattern ih =>
    cases s with
    | nil => simp [dropPrefix?]
    | cons b s => simp [dropPrefix?, ih, @eq_comm _ b p]

/-! ### Searching -/

/-- The bytes before the first occurrence of `pattern` and those after it. -/
def breakOn? (pattern s : Bytes) : Option (Bytes × Bytes) :=
  go [] s
where
  /-- Searches `s`, with the bytes passed so far in `passed`, last one first. -/
  go (passed : Bytes) (s : Bytes) : Option (Bytes × Bytes) :=
    match dropPrefix? pattern s with
    | some after => some (passed.reverse, after)
    | none =>
      match s with
      | [] => none
      | b :: rest => go (b :: passed) rest

theorem breakOn?.go_eq (pattern passed s : Bytes) :
    breakOn?.go pattern passed s =
      (breakOn?.go pattern [] s).map fun r => (passed.reverse ++ r.1, r.2) := by
  induction s generalizing passed with
  | nil =>
    unfold breakOn?.go
    cases dropPrefix? pattern [] <;> simp
  | cons b rest ih =>
    unfold breakOn?.go
    cases dropPrefix? pattern (b :: rest) with
    | some after => simp
    | none =>
      simp only
      rw [ih (b :: passed), ih [b]]
      cases breakOn?.go pattern [] rest <;> simp

/-- A pattern at the very start is found there. -/
theorem breakOn?_of_dropPrefix? {pattern s after : Bytes} (h : dropPrefix? pattern s = some after) :
    breakOn? pattern s = some ([], after) := by
  unfold breakOn? breakOn?.go
  rw [h]; rfl

theorem breakOn?_nil {pattern : Bytes} (h : dropPrefix? pattern [] = none) :
    breakOn? pattern [] = none := by
  unfold breakOn? breakOn?.go
  rw [h]

/-- A pattern that is not at the start is looked for one byte further on. -/
theorem breakOn?_cons {pattern : Bytes} {b : UInt8} {rest : Bytes}
    (h : dropPrefix? pattern (b :: rest) = none) :
    breakOn? pattern (b :: rest) = (breakOn? pattern rest).map fun r => (b :: r.1, r.2) := by
  conv => lhs; unfold breakOn? breakOn?.go
  rw [h]
  simp only
  rw [breakOn?.go_eq]
  rfl

/-- **What a search finds** lies in the byte string, with the pattern between the pieces. -/
theorem breakOn?_eq_some {pattern s before after : Bytes}
    (h : breakOn? pattern s = some (before, after)) : s = before ++ pattern ++ after := by
  induction s generalizing before after with
  | nil =>
    cases hp : dropPrefix? pattern [] with
    | none => simp [breakOn?_nil hp] at h
    | some t =>
      rw [breakOn?_of_dropPrefix? hp] at h
      obtain ⟨rfl, rfl⟩ : [] = before ∧ t = after := by simpa using h
      simpa using dropPrefix?_eq_some_iff.1 hp
  | cons b rest ih =>
    cases hp : dropPrefix? pattern (b :: rest) with
    | some t =>
      rw [breakOn?_of_dropPrefix? hp] at h
      obtain ⟨rfl, rfl⟩ : [] = before ∧ t = after := by simpa using h
      simpa using dropPrefix?_eq_some_iff.1 hp
    | none =>
      rw [breakOn?_cons hp, Option.map_eq_some_iff] at h
      obtain ⟨⟨u, v⟩, hr, huv⟩ := h
      obtain ⟨rfl, rfl⟩ : b :: u = before ∧ v = after := by simpa using huv
      simp [ih hr]

/-- The search fails exactly when the pattern does not occur. -/
theorem breakOn?_eq_none_iff {pattern s : Bytes} :
    breakOn? pattern s = none ↔ ¬ pattern <:+: s := by
  induction s with
  | nil =>
    cases hp : dropPrefix? pattern [] with
    | none =>
      rw [breakOn?_nil hp]
      cases pattern <;> simp_all [dropPrefix?]
    | some t =>
      rw [breakOn?_of_dropPrefix? hp]
      have := dropPrefix?_eq_some_iff.1 hp
      simp_all
  | cons b rest ih =>
    cases hp : dropPrefix? pattern (b :: rest) with
    | some t =>
      rw [breakOn?_of_dropPrefix? hp]
      have hs := dropPrefix?_eq_some_iff.1 hp
      simp only [reduceCtorEq, false_iff, Classical.not_not]
      exact ⟨[], t, by simp [hs]⟩
    | none =>
      rw [breakOn?_cons hp, Option.map_eq_none_iff, ih, List.infix_cons_iff]
      have : ¬ pattern <+: b :: rest := by
        rintro ⟨t, ht⟩
        simp [dropPrefix?_eq_some_iff.2 ht.symm] at hp
      simp [this]

/-- What follows the pattern is shorter than the whole, if the pattern is not empty. -/
theorem length_lt_of_breakOn? {pattern s before after : Bytes} (hp : pattern ≠ [])
    (h : breakOn? pattern s = some (before, after)) : after.length < s.length := by
  have := List.length_pos_iff.2 hp
  rw [breakOn?_eq_some h]
  simp; omega

end Bytes

end FormReply
