import FormReply.Form.Bank
import FormReply.Proofs.Form.Lookup

/-!
# Runs on a bank of forms

Every action puts back a form that was there, a form that is collected, or one that grew by
insertions.  So whatever is done to the forms of a bank, one action after another, what they then
tell of names agrees with their fields.

* `Bank.after`: the bank that a run leaves behind;
* `run_concat`: what a run gives at each step;
* `apply_insert_of_missing`, `apply_insert_of_present`: **an insertion** of a name that is missing or
  present;
* `fields_prefix_apply`: a step that inserts or merges only ever appends;
* `forms_of_run`: **every step of a run**: what it answers, what it changes, and what the forms then
  tell of their fields.
-/

namespace FormReply.Bank

/-- The bank after actions, one after another. -/
def after (b : Bank) (steps : List (String × Action)) : Bank :=
  steps.foldl (fun b step => (b.apply step.1 step.2).2) b

/-- **What a run gives** at each step is the answer there and the form that is then under the
label. -/
theorem run_concat (b : Bank) (steps : List (String × Action)) (label : String)
    (action : Action) :
    b.run (steps ++ [(label, action)]) =
      b.run steps ++ [(((b.after steps).apply label action).1,
        b.after (steps ++ [(label, action)]) label)] := by
  induction steps generalizing b with
  | nil => rfl
  | cons step steps ih => exact congrArg (_ :: ·) (ih (b.apply step.1 step.2).2)

theorem after_concat (b : Bank) (steps : List (String × Action)) (label : String)
    (action : Action) :
    b.after (steps ++ [(label, action)]) = ((b.after steps).apply label action).2 := by
  rw [after, List.foldl_append]
  rfl

/-! ### Single steps -/

theorem apply_insert (b : Bank) (label : String) (x : Field) :
    b.apply label (.insert x) =
      (.truth !(b label).contains x.name, b.set label ((b label).insert x)) := by
  rw [← Form.insertIfNew_fst]
  rfl

theorem apply_insert_self (b : Bank) (label : String) (x : Field) :
    (b.apply label (.insert x)).2 label = (b label).insert x := by
  simp only [apply_insert, set_self]

/-- A field whose name is missing is appended. -/
theorem apply_insert_of_missing (b : Bank) {label : String} {x : Field}
    (h : (b label).contains x.name = false) :
    (b.apply label (.insert x)).1 = .truth true ∧
      ((b.apply label (.insert x)).2 label).fields = (b label).fields ++ [x] := by
  rw [apply_insert_self, Form.fields_insert, apply_insert, h]
  exact ⟨rfl, rfl⟩

/-- A field whose name is present changes nothing. -/
theorem apply_insert_of_present (b : Bank) {label : String} {x : Field}
    (h : (b label).contains x.name = true) :
    (b.apply label (.insert x)).1 = .truth false ∧
      (b.apply label (.insert x)).2 label = b label := by
  rw [apply_insert_self, Form.insert_of_contains h, apply_insert, h]
  exact ⟨rfl, rfl⟩

/-- A form that is taken out from under another label is merged as it was there, and leaves none
behind. -/
theorem apply_merge_of_ne (b : Bank) {label source : String} (h : source ≠ label) :
    (b.apply label (.merge source)).2 label = (b label).merge (b source) ∧
      (b.apply label (.merge source)).2 source = ∅ := by
  simp only [apply, store, set_self, set_of_ne _ _ h, set_of_ne _ _ h.symm, and_self]

/-- A form that is merged into its own label is put back. -/
theorem apply_merge_self (b : Bank) (label : String) :
    (b.apply label (.merge label)).2 label = b label := by
  have hput : (b.apply label (.merge label)).2 label = (∅ : Form).merge (b label) := by
    simp only [apply, store, set_self]
  rw [hput]
  exact (b label).ofList_fields

/-- A step that inserts a field or merges another form makes the form grow at its end. -/
theorem fields_prefix_apply {b : Bank} {label : String} {action : Action}
    (h : (∃ x, action = .insert x) ∨ ∃ source, action = .merge source ∧ source ≠ label) :
    (b label).fields <+: ((b.apply label action).2 label).fields := by
  rcases h with ⟨x, rfl⟩ | ⟨source, rfl, hne⟩
  · rw [apply_insert_self]
    exact (b label).fields_prefix_insert x
  · rw [(b.apply_merge_of_ne hne).1]
    exact (b label).fields_prefix_merge (b source)

/-! ### Whole runs -/

/-- **Every step of a run.**  In a run that begins with empty forms, a step gives its answer and the
form that it leaves under its label.  Before and after it, every form has distinct names and tells
of them what its fields say.  An insertion is answered by whether the name was missing, and then
appends the field, or else changes nothing; an insertion and the merging of another form only ever
append; a form that is merged into itself is put back; and a form that a step does not name stays as
it was. -/
theorem forms_of_run (steps : List (String × Action)) (label : String) (action : Action) :
    let before := empty.after steps
    let answer := (before.apply label action).1
    let later := empty.after (steps ++ [(label, action)])
    empty.run (steps ++ [(label, action)]) = empty.run steps ++ [(answer, later label)] ∧
      (∀ l, (before l).Faithful ∧ (later l).Faithful) ∧
      (∀ x, action = .insert x →
        (answer = .truth true ↔ (before label).contains x.name = false) ∧
        (answer = .truth true → (later label).fields = (before label).fields ++ [x]) ∧
        (answer ≠ .truth true → answer = .truth false ∧ later label = before label)) ∧
      (((∃ x, action = .insert x) ∨ ∃ source, action = .merge source ∧ source ≠ label) →
        (before label).fields <+: (later label).fields) ∧
      (∀ source, action = .merge source →
        (source ≠ label → later label = (before label).merge (before source) ∧
          later source = ∅) ∧
        (source = label → later label = before label)) ∧
      ∀ l, l ≠ label → (∀ source, action = .merge source → l ≠ source) →
        later l = before l := by
  intro before answer later
  have hlater : later = (before.apply label action).2 := empty.after_concat steps label action
  refine ⟨empty.run_concat steps label action,
    fun l => ⟨(before l).faithful, (later l).faithful⟩, ?_, ?_, ?_, ?_⟩
  · rintro x rfl
    rw [hlater]
    cases hx : (before label).contains x.name with
    | false =>
      obtain ⟨hanswer, hfields⟩ := before.apply_insert_of_missing hx
      exact ⟨iff_of_true hanswer rfl, fun _ => hfields, fun h => absurd hanswer h⟩
    | true =>
      obtain ⟨hanswer, hform⟩ := before.apply_insert_of_present hx
      have hne : answer ≠ .truth true := fun h => absurd (hanswer.symm.trans h) (by decide)
      exact ⟨iff_of_false hne (by simp), fun h => absurd h hne, fun _ => ⟨hanswer, hform⟩⟩
  · rw [hlater]
    exact fields_prefix_apply
  · rintro source rfl
    rw [hlater]
    refine ⟨fun hne => before.apply_merge_of_ne hne, ?_⟩
    rintro rfl
    exact before.apply_merge_self source
  · intro l hl hsource
    rw [hlater]
    exact before.apply_of_ne action hl hsource

example : (empty.run [("a", .insert ⟨"x", none⟩), ("a", .insert ⟨"x", some ""⟩),
    ("a", .merge "a"), ("a", .get "x")]).map (·.1) =
      [.truth true, .truth false, .count 1, .value (some none)] := by decide

end FormReply.Bank
