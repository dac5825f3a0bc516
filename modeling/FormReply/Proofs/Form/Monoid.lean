import FormReply.Proofs.Form.Lookup
import Mathlib.Algebra.BigOperators.Group.List.Basic

/-!
# Forms as a monoid

Merging puts one form behind another and drops the fields that come too late.  It is associative,
and the empty form is neutral.  That a later field of a name is dropped is all that it does: in any
monoid in which a field absorbs every later one of its name, a list of fields and the form that is
collected from it have the same product.

* `merge_assoc`, `empty_merge`, `merge_empty`: the laws of a monoid;
* `merge_eq_self_iff`: the forms that add nothing;
* `contains_merge_comm`, `get?_merge_comm`: what does not depend on the order of two forms;
* `prod_ofList`: **forms are free** among the monoids in which the first field of a name wins;
* `merge_laws`: the laws together.
-/

namespace FormReply.Form

/-! ### The laws of a monoid -/

theorem merge_assoc (f g h : Form) : (f.merge g).merge h = f.merge (g.merge h) :=
  (f.insertAll_fields_insertAll g h.fields).symm

theorem merge_empty (f : Form) : f.merge ∅ = f := rfl

theorem empty_merge (f : Form) : (∅ : Form).merge f = f := ofList_fields f

/-! ### Forms that add nothing -/

theorem insertAll_of_contains {f : Form} {l : List Field}
    (h : ∀ x ∈ l, f.contains x.name = true) : f.insertAll l = f := by
  induction l with
  | nil => rfl
  | cons x l ih =>
    rw [insertAll_cons, insert_of_contains (h x List.mem_cons_self)]
    exact ih fun y hy => h y (List.mem_cons_of_mem x hy)

/-- **A form adds nothing** to another one exactly if that one has all its names. -/
theorem merge_eq_self_iff {f g : Form} :
    f.merge g = f ↔ ∀ name, g.contains name = true → f.contains name = true := by
  constructor
  · intro h name hg
    rw [← h, contains_merge, hg, Bool.or_true]
  · intro h
    refine insertAll_of_contains fun x hx => h x.name ?_
    exact contains_iff.2 (List.mem_map_of_mem hx)

theorem merge_self (f : Form) : f.merge f = f := merge_eq_self_iff.2 fun _ h => h

/-! ### The order of two forms -/

theorem contains_merge_comm (f g : Form) (name : String) :
    (f.merge g).contains name = (g.merge f).contains name := by
  rw [contains_merge, contains_merge, Bool.or_comm]

/-- Two forms that are merged in either order differ only in the values of shared names. -/
theorem get?_merge_comm {f g : Form} {name : String}
    (h : f.contains name = false ∨ g.contains name = false) :
    (f.merge g).get? name = (g.merge f).get? name := by
  rw [get?_merge, get?_merge]
  rcases h with h | h
  · rw [get?_eq_none h, Option.none_or, Option.or_none]
  · rw [get?_eq_none h, Option.none_or, Option.or_none]

/-! ### Freeness -/

section Product

variable {M : Type*} [Monoid M] {φ : Field → M}

/-- A field absorbs every later one of its name. -/
def IsFirstWins (φ : Field → M) : Prop :=
  ∀ x y : Field, x.name = y.name → ∀ m, φ x * m * φ y = φ x * m

theorem prod_insert (h : IsFirstWins φ) (f : Form) (x : Field) :
    ((f.insert x).fields.map φ).prod = (f.fields.map φ).prod * φ x := by
  by_cases hx : f.contains x.name = true
  · rw [insert_of_contains hx]
    obtain ⟨y, hy, hyx⟩ := List.mem_map.1 (contains_iff.1 hx)
    obtain ⟨before, after, hf⟩ := List.append_of_mem hy
    -- The field is absorbed by the one of its name, across all that stands between the two.
    have habsorb := h y x hyx (after.map φ).prod
    rw [hf, List.map_append, List.map_cons, List.prod_append, List.prod_cons, mul_assoc, habsorb]
  · rw [fields_insert, if_neg hx, List.map_append, List.prod_append, List.map_singleton,
      List.prod_singleton]

theorem prod_insertAll (h : IsFirstWins φ) (f : Form) (l : List Field) :
    ((f.insertAll l).fields.map φ).prod = (f.fields.map φ).prod * (l.map φ).prod := by
  induction l generalizing f with
  | nil => rw [insertAll_nil, List.map_nil, List.prod_nil, mul_one]
  | cons x l ih => rw [insertAll_cons, ih, prod_insert h, List.map_cons, List.prod_cons, mul_assoc]

/-- **Forms are free**: collecting a form changes no product in which a field absorbs every later
one of its name. -/
theorem prod_ofList (h : IsFirstWins φ) (l : List Field) :
    ((ofList l).fields.map φ).prod = (l.map φ).prod := by
  rw [ofList, prod_insertAll h, fields_empty, List.map_nil, List.prod_nil, one_mul]

end Product

/-- **The laws of merging.**  Collecting a list in two batches is merging what they collect to, and
what is collected are the first occurrences.  Merging is associative, with the empty form as its
neutral element, and a form is collected again from its own fields.  A form adds nothing to another
one exactly if that one has all its names, so it adds nothing to itself.  Merged in either order,
two forms give the same names, and the same value to every name that not both have.  And forms are
free in this: a product in which a field absorbs every later one of its name is not changed by
collecting. -/
theorem merge_laws :
    (∀ l₁ l₂, ofList (l₁ ++ l₂) = (ofList l₁).merge (ofList l₂)) ∧
      (∀ l, (ofList l).fields = firstOccurrences l) ∧
      (∀ f g h : Form, (f.merge g).merge h = f.merge (g.merge h)) ∧
      (∀ f : Form, (∅ : Form).merge f = f ∧ f.merge ∅ = f ∧ ofList f.fields = f) ∧
      (∀ f g : Form,
        f.merge g = f ↔ ∀ name, g.contains name = true → f.contains name = true) ∧
      (∀ f : Form, f.merge f = f) ∧
      (∀ (f g : Form) (name : String),
        (f.merge g).contains name = (g.merge f).contains name ∧
          ((f.contains name = false ∨ g.contains name = false) →
            (f.merge g).get? name = (g.merge f).get? name)) ∧
      ∀ (M : Type) [Monoid M] (φ : Field → M), IsFirstWins φ →
        ∀ l, ((ofList l).fields.map φ).prod = (l.map φ).prod := by
  refine ⟨fun l₁ l₂ => (merge_ofList l₁ l₂).symm, fields_ofList, merge_assoc, fun f => ?_,
    fun f g => merge_eq_self_iff, merge_self, fun f g name => ?_, fun M _ φ hφ => prod_ofList hφ⟩
  · exact ⟨empty_merge f, merge_empty f, ofList_fields f⟩
  · exact ⟨contains_merge_comm f g name, get?_merge_comm⟩

/-- Two forms that share a name with different values, and a product that tells whether a name is
there. -/
theorem merge_laws_of_shared_name :
    let f : Form := { fields := [⟨"a", some "1"⟩, ⟨"b", none⟩] }
    let g : Form := { fields := [⟨"b", some "2"⟩, ⟨"c", some ""⟩] }
    let φ : Field → ℕ := fun x => if x.name = "a" then 0 else 1
    (f.fields.map (·.name)).Nodup ∧ (∅ : Form).merge f = f ∧ ofList f.fields = f ∧
      f.merge g ≠ g.merge f ∧ f.contains "c" = false ∧
      (f.merge g).get? "c" = (g.merge f).get? "c" ∧ IsFirstWins φ ∧
      ((ofList (f.fields ++ g.fields)).fields.map φ).prod =
        ((f.fields ++ g.fields).map φ).prod := by
  intro f g φ
  obtain ⟨-, -, -, hneutral, -, -, horder, hfree⟩ := merge_laws
  have hc : f.contains "c" = false := by decide
  have hφ : IsFirstWins φ := by
    intro x y hxy m
    simp only [φ, hxy]
    split
    · rw [Nat.mul_zero, Nat.zero_mul]
    · rw [Nat.mul_one]
  exact ⟨f.distinct, (hneutral f).1, (hneutral f).2.2, by decide, hc,
    (horder f g "c").2 (Or.inl hc), hφ, hfree ℕ φ hφ _⟩

end FormReply.Form
