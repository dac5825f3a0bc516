import FormReply.Form.Basic

/-!
# First occurrences

The first occurrences in a list of fields are those at whose position the name has not been seen
before.  Collecting a form one field at a time keeps just these.

* `fields_ofList`: the fields of a collected form are the first occurrences;
* `nodup_firstOccurrences`: the names of the first occurrences are distinct.
-/

namespace FormReply

/-- The fields whose names no earlier field has, in order. -/
def firstOccurrences (l : List Field) : List Field :=
  (l.zipIdx.filter fun x => !(l.take x.2).any (·.name == x.1.name)).map (·.1)

theorem firstOccurrences_concat (l : List Field) (x : Field) :
    firstOccurrences (l ++ [x]) =
      if l.any (·.name == x.name) then firstOccurrences l else firstOccurrences l ++ [x] := by
  have hold : ∀ y ∈ l.zipIdx, (l ++ [x]).take y.2 = l.take y.2 := by
    intro y hy
    have := List.snd_lt_of_mem_zipIdx hy
    exact List.take_append_of_le_length (by omega)
  unfold firstOccurrences
  rw [List.zipIdx_append, List.filter_append, List.map_append]
  have hl : (l.zipIdx.filter fun y => !((l ++ [x]).take y.2).any (·.name == y.1.name)) =
      l.zipIdx.filter fun y => !(l.take y.2).any (·.name == y.1.name) :=
    List.filter_congr fun y hy => by rw [hold y hy]
  rw [hl]
  by_cases h : l.any (·.name == x.name)
  · simp [h]
  · simp [h]

theorem length_firstOccurrences_le (l : List Field) : (firstOccurrences l).length ≤ l.length := by
  rw [firstOccurrences, List.length_map, ← @List.length_zipIdx _ l 0]
  exact List.length_filter_le _ _

namespace Form

theorem contains_insertAll (f : Form) (l : List Field) (name : String) :
    (f.insertAll l).contains name = (f.contains name || l.any (·.name == name)) := by
  induction l generalizing f with
  | nil => simp
  | cons x l ih =>
    rw [insertAll_cons, ih, List.any_cons]
    have : (f.insert x).contains name = (f.contains name || x.name == name) := by
      rw [Bool.eq_iff_iff, Bool.or_eq_true, contains_iff, contains_iff, fields_insert]
      split
      · next hx =>
        rw [contains_iff] at hx
        constructor
        · exact Or.inl
        · rintro (h | h)
          · exact h
          · rwa [← beq_iff_eq.1 h]
      · rw [List.map_append, List.mem_append, List.map_singleton, List.mem_singleton, beq_iff_eq]
        exact or_congr Iff.rfl ⟨Eq.symm, Eq.symm⟩
    rw [this, Bool.or_assoc]

/-- **A collected form** has the first occurrences as its fields. -/
theorem fields_ofList (l : List Field) : (ofList l).fields = firstOccurrences l := by
  induction hn : l.length generalizing l with
  | zero =>
    rw [List.length_eq_zero_iff.1 hn]
    rfl
  | succ n ih =>
    obtain ⟨l, x, rfl⟩ : ∃ l' x, l = l' ++ [x] :=
      ⟨l.dropLast, l.getLast (by rintro rfl; simp at hn), (List.dropLast_concat_getLast _).symm⟩
    have hl := ih l (by simpa using hn)
    have hc : (ofList l).contains x.name = l.any (·.name == x.name) := by
      rw [ofList, contains_insertAll]
      simp [contains]
    rw [ofList_append, insertAll_cons, insertAll_nil, fields_insert, hc, hl,
      firstOccurrences_concat]

/-- A collected form has no more fields than were collected. -/
theorem size_ofList_le (l : List Field) : (ofList l).size ≤ l.length := by
  rw [size, fields_ofList]
  exact length_firstOccurrences_le l

end Form

/-- No two first occurrences have the same name. -/
theorem nodup_firstOccurrences (l : List Field) : ((firstOccurrences l).map (·.name)).Nodup := by
  rw [← Form.fields_ofList]
  exact (Form.ofList l).distinct

example : firstOccurrences [⟨"a", some "1"⟩, ⟨"b", none⟩, ⟨"a", none⟩] =
    [⟨"a", some "1"⟩, ⟨"b", none⟩] := by decide

end FormReply
