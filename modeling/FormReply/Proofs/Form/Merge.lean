import FormReply.Form.FirstOccurrence

/-!
# Merging forms

Inserting the fields of a form that grew does what inserting its fields and then those that it was
given does.  So inserting the first occurrences of a list does what inserting the whole list does,
and forms that are collected from two lists and then merged are collected from the two lists in a
row.

* `insertAll_fields_insertAll`: **a form that grew**, put behind another one;
* `insertAll_firstOccurrences`: fields that are no first occurrences change nothing;
* `merge_ofList`: **two collected forms** that are merged;
* `mem_firstOccurrences_names`: the names of the first occurrences.
-/

namespace FormReply

namespace Form

/-- A field whose name is present changes nothing. -/
theorem insert_of_contains {f : Form} {x : Field} (h : f.contains x.name = true) :
    f.insert x = f := by
  apply Form.ext
  rw [fields_insert, if_pos h]

theorem insertAll_fields_insert (f g : Form) (x : Field) :
    f.insertAll (g.insert x).fields = (f.insertAll g.fields).insert x := by
  by_cases hx : g.contains x.name = true
  · have hfx : (f.insertAll g.fields).contains x.name = true := by
      rw [contains_insertAll]
      exact Bool.or_eq_true_iff.2 (Or.inr hx)
    rw [insert_of_contains hx, insert_of_contains hfx]
  · rw [fields_insert, if_neg hx, insertAll_append, insertAll_cons, insertAll_nil]

/-- **A form that grew**, put behind another one: it does not matter which of its fields it refused
itself, because the other one has their names by then. -/
theorem insertAll_fields_insertAll (f g : Form) (l : List Field) :
    f.insertAll (g.insertAll l).fields = (f.insertAll g.fields).insertAll l := by
  induction l generalizing g with
  | nil => rfl
  | cons x l ih => rw [insertAll_cons, ih, insertAll_fields_insert, insertAll_cons]

/-- **Fields that are no first occurrences** change nothing, whatever they are inserted into. -/
theorem insertAll_firstOccurrences (f : Form) (l : List Field) :
    f.insertAll (firstOccurrences l) = f.insertAll l := by
  rw [← fields_ofList, ofList, insertAll_fields_insertAll, fields_empty, insertAll_nil]

/-- **Two collected forms** that are merged are collected from the two lists in a row. -/
theorem merge_ofList (l₁ l₂ : List Field) : (ofList l₁).merge (ofList l₂) = ofList (l₁ ++ l₂) := by
  rw [merge, fields_ofList, insertAll_firstOccurrences, ofList_append]

end Form

/-- Every name in a list is the name of a first occurrence. -/
theorem mem_firstOccurrences_names {l : List Field} {name : String} :
    name ∈ (firstOccurrences l).map (·.name) ↔ name ∈ l.map (·.name) := by
  rw [← Form.fields_ofList, ← Form.contains_iff, Form.ofList, Form.contains_insertAll]
  simp [Form.contains]

end FormReply
