import FormReply.Bytes
import FormReply.Proofs.Lists
import Mathlib.Data.List.Infix

/-!
# Lines

A byte string is cut into lines at its line feeds.

* `lines_append_cons`, `lines_of_not_mem`: the lines of a byte string that is put together;
* `headLines_flatMap_append`, `behindHead_flatMap_append`: what stands before the first empty line,
  and what behind it;
* `exists_mem_lines_iff`: **where a line begins**: at the start, and behind every line feed.
-/

namespace FormReply.Bytes

/-- The lines of a byte string; the last one is what stands behind the last line feed. -/
def lines (s : Bytes) : List Bytes := s.splitOn 10

/-- The lines before the first empty one. -/
def headLines (s : Bytes) : List Bytes := (lines s).takeWhile (· ≠ [])

/-- The lines behind the first empty one. -/
def linesBehindHead (s : Bytes) : List Bytes := ((lines s).dropWhile (· ≠ [])).drop 1

/-- The bytes behind the first empty line. -/
def behindHead (s : Bytes) : Bytes := List.intercalate [10] (linesBehindHead s)

theorem lines_append_cons (a b : Bytes) : lines (a ++ 10 :: b) = lines a ++ lines b :=
  List.splitOn_append_cons_self a b

theorem lines_of_not_mem {s : Bytes} (h : 10 ∉ s) : lines s = [s] := List.splitOn_eq_singleton h

theorem lines_nil : lines [] = [[]] := lines_of_not_mem List.not_mem_nil

theorem lines_concat (s : Bytes) : lines (s ++ [10]) = lines s ++ [[]] := by
  rw [lines_append_cons, lines_nil]

/-- The bytes of a byte string, put together from its lines. -/
theorem intercalate_lines (s : Bytes) : List.intercalate [10] (lines s) = s :=
  List.intercalate_splitOn 10

/-- Lines that are written one behind the other are read back. -/
theorem lines_flatMap_append {ls : List Bytes} (h : ∀ line ∈ ls, 10 ∉ line) (rest : Bytes) :
    lines (ls.flatMap (· ++ [10]) ++ rest) = ls ++ lines rest := by
  induction ls with
  | nil => rfl
  | cons line ls ih =>
    have hline := lines_of_not_mem (h line List.mem_cons_self)
    have hrest := ih fun l hl => h l (List.mem_cons_of_mem _ hl)
    rw [List.flatMap_cons, List.append_assoc, List.append_assoc, List.singleton_append,
      lines_append_cons, hline, hrest]
    rfl

section

variable {ls : List Bytes} (h : ∀ line ∈ ls, line ≠ [] ∧ 10 ∉ line) (rest : Bytes)
include h

theorem lines_head_rest :
    lines (ls.flatMap (· ++ [10]) ++ 10 :: rest) = ls ++ [] :: lines rest := by
  have hempty := lines_append_cons [] rest
  rw [lines_nil, List.nil_append] at hempty
  rw [lines_flatMap_append fun line hl => (h line hl).2, hempty]
  rfl

theorem headLines_flatMap_append :
    headLines (ls.flatMap (· ++ [10]) ++ 10 :: rest) = ls := by
  rw [headLines, lines_head_rest h]
  exact takeWhile_append_cons (fun line hl => by simpa using (h line hl).1) (by simp) _

theorem linesBehindHead_flatMap_append :
    linesBehindHead (ls.flatMap (· ++ [10]) ++ 10 :: rest) = lines rest := by
  have hdrop : (ls ++ [] :: lines rest).dropWhile (· ≠ []) = [] :: lines rest :=
    dropWhile_append_cons (fun line hl => by simpa using (h line hl).1) (by simp) _
  rw [linesBehindHead, lines_head_rest h, hdrop]
  rfl

theorem behindHead_flatMap_append :
    behindHead (ls.flatMap (· ++ [10]) ++ 10 :: rest) = rest := by
  rw [behindHead, linesBehindHead_flatMap_append h, intercalate_lines]

end

/-- A beginning without a line feed does not reach across one. -/
theorem prefix_append_cons_iff {p a : Bytes} (hp : 10 ∉ p) (b : Bytes) :
    p <+: a ++ 10 :: b ↔ p <+: a := by
  constructor
  · intro h
    by_cases hle : p.length ≤ a.length
    · exact List.prefix_of_prefix_length_le h (List.prefix_append a (10 :: b)) hle
    · have ha : a ++ [10] <+: a ++ 10 :: b := ⟨b, by simp⟩
      have hlong : a ++ [10] <+: p := List.prefix_of_prefix_length_le ha h (by simp; omega)
      exact absurd (hlong.subset (by simp)) hp
  · exact fun h => h.trans (List.prefix_append a (10 :: b))

/-- What begins with a line feed does not begin before one. -/
theorem cons_infix_append_iff {p a : Bytes} (ha : 10 ∉ a) (b : Bytes) :
    (10 :: p) <:+: a ++ b ↔ (10 :: p) <:+: b := by
  constructor
  · intro h
    rcases List.infix_append_iff.1 h with h | h | ⟨l₁, l₂, hl, h₁, h₂⟩
    · exact absurd (h.subset List.mem_cons_self) ha
    · exact h
    · cases l₁ with
      | nil =>
        rw [List.nil_append] at hl
        rw [hl]
        exact h₂.isInfix
      | cons c l₁ =>
        obtain ⟨rfl, -⟩ := List.cons.inj hl
        exact absurd (h₁.subset List.mem_cons_self) ha
  · exact fun h => List.infix_append_of_infix_right h

/-- **Where a line begins**: at the start, and behind every line feed. -/
theorem exists_mem_lines_iff {p : Bytes} (hp : 10 ∉ p) (s : Bytes) :
    (∃ line ∈ lines s, p <+: line) ↔ p <+: s ∨ (10 :: p) <:+: s := by
  -- Behind its first line feed a byte string is shorter, so the induction is on the length.
  induction hn : s.length using Nat.strongRecOn generalizing s with
  | ind n ih =>
    by_cases hs : 10 ∈ s
    · obtain ⟨a, b, rfl, ha⟩ := List.eq_append_cons_of_mem hs
      have hb := ih b.length (by rw [← hn, List.length_append, List.length_cons]; omega) b rfl
      rw [lines_append_cons, lines_of_not_mem ha, prefix_append_cons_iff hp,
        cons_infix_append_iff ha, List.infix_cons_iff, List.cons_prefix_cons, and_iff_right rfl,
        ← hb]
      simp only [List.cons_append, List.nil_append, List.mem_cons, exists_eq_or_imp]
    · rw [lines_of_not_mem hs]
      have hnot : ¬ (10 :: p) <:+: s := fun h => hs (h.subset List.mem_cons_self)
      simp [hnot]

end FormReply.Bytes
