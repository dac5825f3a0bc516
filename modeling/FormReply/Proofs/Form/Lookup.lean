import FormReply.Proofs.Form.Merge
import Mathlib.Data.Finset.Card
import Mathlib.Data.List.Induction
import Mathlib.Data.List.Nodup

/-!
# Looking up fields

What a form tells of a single name agrees with the list of its fields, because the names in that
list are distinct: a search for a name stops at the one field that has it.  And a form only ever
grows at its end, so a search that succeeds in it goes on to succeed in the same way.

* `Form.Faithful`: what is told of names agrees with the list of fields;
* `Form.faithful`: **every form** is faithful, because its names are distinct;
* `fields_prefix_insert`, `fields_prefix_merge`: fields are appended and never changed;
* `ofList_fields`: a form is collected again from its own fields;
* `get?_insertAll`: **a search in a form that grew** looks at what it was given last of all;
* `mem_fields_ofList_iff`: the fields of a collected form are the first ones of their names.
-/

namespace FormReply

theorem firstOccurrences_of_nodup {l : List Field} (h : (l.map (·.name)).Nodup) :
    firstOccurrences l = l := by
  induction l using List.reverseRecOn with
  | nil => rfl
  | append_singleton l x ih =>
    rw [List.map_append, List.map_singleton, List.nodup_append] at h
    obtain ⟨hl, -, hx⟩ := h
    have hnew : ¬ l.any (·.name == x.name) = true := by
      rw [List.any_eq_true]
      rintro ⟨y, hy, hyx⟩
      exact hx y.name (List.mem_map_of_mem hy) x.name List.mem_cons_self (beq_iff_eq.1 hyx)
    rw [firstOccurrences_concat, if_neg hnew, ih hl]

namespace Form

/-! ### Growing -/

theorem fields_prefix_insert (f : Form) (x : Field) : f.fields <+: (f.insert x).fields := by
  rw [fields_insert]
  split
  · exact List.prefix_refl _
  · exact List.prefix_append _ _

theorem fields_prefix_insertAll (f : Form) (l : List Field) :
    f.fields <+: (f.insertAll l).fields := by
  induction l generalizing f with
  | nil => exact List.prefix_refl _
  | cons x l ih => exact (f.fields_prefix_insert x).trans (ih (f.insert x))

theorem fields_prefix_merge (f g : Form) : f.fields <+: (f.merge g).fields :=
  f.fields_prefix_insertAll g.fields

/-- **A form is collected again** from its own fields. -/
theorem ofList_fields (f : Form) : ofList f.fields = f := by
  apply Form.ext
  rw [fields_ofList, firstOccurrences_of_nodup f.distinct]

/-! ### Names and fields -/

/-- What a form tells of its names agrees with the list of its fields. -/
structure Faithful (f : Form) : Prop where
  /-- No two fields have the same name. -/
  nodup_names : (f.fields.map (·.name)).Nodup
  /-- A value, present or absent, is found under a name exactly if the two are listed together. -/
  get?_eq_some_iff : ∀ name value, f.get? name = some value ↔ ⟨name, value⟩ ∈ f.fields
  /-- A name is present exactly if it is listed. -/
  contains_iff : ∀ name, f.contains name = true ↔ ∃ value, ⟨name, value⟩ ∈ f.fields
  /-- The size is the number of different names that are listed. -/
  size_eq : f.size = (f.fields.map (·.name)).toFinset.card

theorem name_of_find? {l : List Field} {name : String} {x : Field}
    (h : l.find? (·.name == name) = some x) : x.name = name := by
  have hx := List.find?_some h
  exact beq_iff_eq.1 hx

/-- A search for a name finds the field that has it. -/
theorem find?_eq_some_iff {f : Form} {name : String} {x : Field} :
    f.fields.find? (·.name == name) = some x ↔ x ∈ f.fields ∧ x.name = name := by
  constructor
  · exact fun hx => ⟨List.mem_of_find?_eq_some hx, name_of_find? hx⟩
  · rintro ⟨hx, hxn⟩
    have hfound : (f.fields.find? (·.name == name)).isSome = true :=
      List.find?_isSome.2 ⟨x, hx, beq_iff_eq.2 hxn⟩
    obtain ⟨y, hy⟩ := Option.isSome_iff_exists.1 hfound
    -- The names are distinct, so the field that is found is the one that is listed.
    have hyx : y.name = x.name := (name_of_find? hy).trans hxn.symm
    rw [hy, List.inj_on_of_nodup_map f.distinct (List.mem_of_find?_eq_some hy) hx hyx]

theorem get?_eq_some_iff (f : Form) (name : String) (value : Option String) :
    f.get? name = some value ↔ ⟨name, value⟩ ∈ f.fields := by
  unfold get?
  rw [Option.map_eq_some_iff]
  constructor
  · rintro ⟨x, hx, rfl⟩
    obtain ⟨hmem, rfl⟩ := find?_eq_some_iff.1 hx
    exact hmem
  · exact fun hmem => ⟨_, find?_eq_some_iff.2 ⟨hmem, rfl⟩, rfl⟩

/-- **Every form** tells of its names what the list of its fields says. -/
theorem faithful (f : Form) : f.Faithful where
  nodup_names := f.distinct
  get?_eq_some_iff := f.get?_eq_some_iff
  contains_iff name := by
    rw [Form.contains_iff, List.mem_map]
    constructor
    · rintro ⟨x, hx, rfl⟩
      exact ⟨x.value, hx⟩
    · rintro ⟨value, hvalue⟩
      exact ⟨_, hvalue, rfl⟩
  size_eq := by rw [List.toFinset_card_of_nodup f.distinct, List.length_map, size]

/-! ### Searching a form that grew -/

theorem contains_eq_isSome_get? (f : Form) (name : String) :
    f.contains name = (f.get? name).isSome := by
  rw [get?, Option.isSome_map, Bool.eq_iff_iff, List.find?_isSome, contains, List.any_eq_true]

theorem get?_eq_none {f : Form} {name : String} (h : f.contains name = false) :
    f.get? name = none := by
  rw [contains_eq_isSome_get?, Option.isSome_eq_false_iff] at h
  exact Option.isNone_iff_eq_none.1 h

/-- An inserted field is found only if its name was missing. -/
theorem get?_insert (f : Form) (x : Field) (name : String) :
    (f.insert x).get? name =
      (f.get? name).or (if x.name == name then some x.value else none) := by
  by_cases hx : f.contains x.name = true
  · rw [insert_of_contains hx]
    by_cases hn : x.name == name
    · have hsome : (f.get? name).isSome = true := by
        rw [← contains_eq_isSome_get?, ← beq_iff_eq.1 hn]
        exact hx
      obtain ⟨v, hv⟩ := Option.isSome_iff_exists.1 hsome
      rw [hv, Option.some_or]
    · rw [if_neg hn, Option.or_none]
  · rw [get?, fields_insert, if_neg hx, List.find?_append, Option.map_or, List.find?_singleton,
      get?]
    split <;> rfl

/-- **A search in a form that grew** looks at its old fields first, and then at the fields that it
was given, in order. -/
theorem get?_insertAll (f : Form) (l : List Field) (name : String) :
    (f.insertAll l).get? name =
      (f.get? name).or ((l.find? (·.name == name)).map (·.value)) := by
  induction l generalizing f with
  | nil => rw [insertAll_nil, List.find?_nil, Option.map_none, Option.or_none]
  | cons x l ih =>
    rw [insertAll_cons, ih, get?_insert, Option.or_assoc, List.find?_cons]
    by_cases hn : x.name == name
    · rw [if_pos hn, hn, Option.some_or]
      rfl
    · rw [if_neg hn, Option.none_or, Bool.eq_false_iff.2 hn]

theorem get?_merge (f g : Form) (name : String) :
    (f.merge g).get? name = (f.get? name).or (g.get? name) := f.get?_insertAll g.fields name

theorem contains_merge (f g : Form) (name : String) :
    (f.merge g).contains name = (f.contains name || g.contains name) :=
  f.contains_insertAll g.fields name

theorem get?_ofList (l : List Field) (name : String) :
    (ofList l).get? name = (l.find? (·.name == name)).map (·.value) := get?_insertAll ∅ l name

/-- **The fields of a collected form** are the first ones of their names. -/
theorem mem_fields_ofList_iff {l : List Field} {x : Field} :
    x ∈ (ofList l).fields ↔ l.find? (·.name == x.name) = some x := by
  rw [← (ofList l).get?_eq_some_iff x.name x.value, get?_ofList, Option.map_eq_some_iff]
  constructor
  · rintro ⟨y, hy, hv⟩
    have hn : y.name = x.name := name_of_find? hy
    obtain ⟨m, v⟩ := y
    obtain ⟨n, w⟩ := x
    obtain ⟨rfl, rfl⟩ : m = n ∧ v = w := ⟨hn, hv⟩
    exact hy
  · exact fun h => ⟨x, h, rfl⟩

theorem mem_of_mem_fields_ofList {l : List Field} {x : Field} (h : x ∈ (ofList l).fields) :
    x ∈ l := List.mem_of_find?_eq_some (mem_fields_ofList_iff.1 h)

end Form

end FormReply
