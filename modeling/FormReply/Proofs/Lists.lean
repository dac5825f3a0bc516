import Mathlib.Data.List.TakeWhile

/-!
# Lists

What is taken of a list up to the first item of another kind, the first item of a kind, properties
of all items, and lists that are joined by separators.
-/

namespace FormReply

variable {α β : Type}

/-- What is taken of a list ends where the first item of another kind stands. -/
theorem takeWhile_append_cons {p : α → Bool} {l : List α} (h : ∀ a ∈ l, p a = true) {x : α}
    (hx : p x = false) (rest : List α) : (l ++ x :: rest).takeWhile p = l := by
  rw [List.takeWhile_append_of_pos h, List.takeWhile_cons_of_neg (by simp [hx]), List.append_nil]

theorem dropWhile_append_cons {p : α → Bool} {l : List α} (h : ∀ a ∈ l, p a = true) {x : α}
    (hx : p x = false) (rest : List α) : (l ++ x :: rest).dropWhile p = x :: rest := by
  rw [List.dropWhile_append_of_pos h, List.dropWhile_cons_of_neg (by simp [hx])]

/-- The first item of a kind is also the first one of a narrower kind, if it is of that kind. -/
theorem find?_and_of_find? {p q : α → Bool} {l : List α} {a : α} (h : l.find? p = some a)
    (hq : q a = true) : (l.find? fun b => p b && q b) = some a := by
  obtain ⟨hp, before, after, rfl, hbefore⟩ := List.find?_eq_some_iff_append.1 h
  refine List.find?_eq_some_iff_append.2 ⟨?_, before, after, rfl, fun b hb => ?_⟩
  · rw [hp, hq, Bool.and_self]
  · rw [Bool.not_and, hbefore b hb, Bool.true_or]

/-- A property of all items may be evaluated item by item. -/
theorem all_decide_iff {p : α → Prop} [DecidablePred p] {l : List α} :
    (l.all fun a => decide (p a)) = true ↔ ∀ a ∈ l, p a := by
  rw [List.all_eq_true]
  exact forall₂_congr fun a _ => decide_eq_true_iff

/-- A sequence of at least two items is the first one, a separator and the others. -/
theorem intercalate_map_cons_cons (sep : List β) (f : α → List β) (x y : α) (l : List α) :
    sep.intercalate ((x :: y :: l).map f) = f x ++ (sep ++ sep.intercalate ((y :: l).map f)) := by
  rw [List.map_cons, List.map_cons, List.intercalate_cons_cons, List.append_assoc]

end FormReply
