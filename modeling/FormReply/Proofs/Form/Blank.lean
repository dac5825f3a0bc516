import FormReply.Proofs.Form.Lookup
import FormReply.Proofs.Form.UrlEncoded

/-!
# Blank values

A pair is dropped for its blank value before the value is decoded.  Decoding makes nothing empty
that was not empty as it was written, whatever escapes and ill-formed bytes there are, so it would
be the same to decode all pairs and to drop the fields with an empty value.

* `decodeComponent_eq_empty_iff`: **only the empty text** stands for the empty text;
* `fields_false`: dropping blank pairs is dropping fields with an empty value;
* `get?_ofQuery`: what the form of a query string has under a name;
* `form_without_blank_values`: the forms with and without blank values.
-/

namespace FormReply

/-- The value of the field is the empty text. -/
def Field.isBlank (x : Field) : Bool := x.value = some ""

namespace UrlEncoded

/-! ### Decoding -/

/-- A byte is either kept or part of an escape, which stands for a byte. -/
theorem percentDecode_cons_ne_nil (b : UInt8) (rest : Bytes) : percentDecode (b :: rest) ≠ [] := by
  have hout : ∀ c s, percentDecode.go [c] s ≠ [] := by
    intro c s
    rw [percentDecode.go_eq]
    exact List.cons_ne_nil _ _
  unfold percentDecode percentDecode.go
  split
  · next h => exact absurd h (List.cons_ne_nil b rest)
  · split <;> exact hout _ _
  · exact hout _ _

theorem percentDecode_eq_nil_iff {s : Bytes} : percentDecode s = [] ↔ s = [] := by
  refine ⟨fun h => ?_, fun h => h ▸ percentDecode_nil⟩
  cases s with
  | nil => rfl
  | cons b rest => exact absurd h (percentDecode_cons_ne_nil b rest)

/-- **Only the empty text** stands for the empty text. -/
theorem decodeComponent_eq_empty_iff {text : List Char} :
    decodeComponent text = "" ↔ text = [] := by
  rw [decodeComponent, ← String.toList_eq_nil_iff, String.toList_ofList,
    Utf8.decodeLossy_eq_nil_iff, percentDecode_eq_nil_iff, Utf8.encode_eq_nil_iff,
    List.map_eq_nil_iff]

/-! ### Fields -/

/-- A pair that is dropped for its blank value would be a field with an empty value. -/
theorem pairField?_false (text : List Char) :
    pairField? false text = (pairField? true text).filter fun x => !x.isBlank := by
  unfold pairField?
  by_cases htext : text.isEmpty = true
  · simp only [htext, Bool.true_or, if_true, Option.filter_none]
  · have hblank : Field.isBlank ⟨decodeComponent (cutPair text).1,
        some (decodeComponent (cutPair text).2)⟩ = (cutPair text).2.isEmpty := by
      rw [Field.isBlank, Bool.eq_iff_iff, decide_eq_true_iff, Option.some_inj,
        decodeComponent_eq_empty_iff, List.isEmpty_iff]
    rw [Bool.not_eq_true] at htext
    simp only [htext, Bool.false_or, Bool.not_false, Bool.not_true, Bool.and_true, Bool.and_false,
      Bool.false_eq_true, if_false, Option.filter_some, hblank]
    cases (cutPair text).2.isEmpty <;> rfl

/-- **Dropping blank pairs** is dropping the fields with an empty value. -/
theorem fields_false (text : List Char) :
    fields false text = (fields true text).filter fun x => !x.isBlank := by
  rw [fields, fields, List.filter_filterMap]
  exact List.filterMap_congr fun pair _ => pairField?_false pair

/-! ### Forms -/

theorem get?_ofQuery (keepBlank : Bool) (query name : String) :
    (Form.ofQuery keepBlank query).get? name =
      ((fields keepBlank query.toList).find? (·.name == name)).map (·.value) :=
  Form.get?_ofList _ name

/-- Without blank values, a name has the first of its values that is not blank. -/
theorem get?_ofQuery_false (query name : String) :
    (Form.ofQuery false query).get? name =
      ((fields true query.toList).find? fun x => x.name == name && !x.isBlank).map (·.value) := by
  have hp : (fun x : Field => x.name == name && !x.isBlank) =
      fun x => decide ((!x.isBlank) = true ∧ (x.name == name) = true) := by
    funext x
    rw [Bool.eq_iff_iff, decide_eq_true_iff, Bool.and_eq_true, and_comm]
  rw [get?_ofQuery, fields_false, List.find?_filter, hp]

/-- **The form of a query string without blank values.**  Its fields are the first ones among those
whose decoded value is not empty, so it has no empty value, and no name that the form with blank
values has not.  A name has the same value in both if its first value is not blank; otherwise it has
its first value that is not blank here, or is absent if there is none. -/
theorem form_without_blank_values (query : String) :
    fields false query.toList = (fields true query.toList).filter (fun x => !x.isBlank) ∧
      (∀ x ∈ (Form.ofQuery false query).fields, ∃ value, x.value = some value ∧ value ≠ "") ∧
      (∀ name, (Form.ofQuery false query).contains name = true →
        (Form.ofQuery true query).contains name = true) ∧
      ∀ name first, (fields true query.toList).find? (·.name == name) = some first →
        (Form.ofQuery true query).get? name = some first.value ∧
        (first.isBlank = false → (Form.ofQuery false query).get? name = some first.value) ∧
        (first.isBlank = true → (Form.ofQuery false query).get? name =
          ((fields true query.toList).find? fun x => x.name == name && !x.isBlank).map
            (·.value)) := by
  refine ⟨fields_false query.toList, fun x hx => ?_, fun name hname => ?_,
    fun name first hfirst => ⟨?_, fun hblank => ?_, fun _ => get?_ofQuery_false query name⟩⟩
  · have hmem := Form.mem_of_mem_fields_ofList hx
    obtain ⟨value, hvalue⟩ := exists_value_of_mem_fields hmem
    refine ⟨value, hvalue, ?_⟩
    rintro rfl
    rw [fields_false] at hmem
    have hfilled := (List.mem_filter.1 hmem).2
    rw [Field.isBlank, hvalue] at hfilled
    simp at hfilled
  · -- The field that is found among the values that are not blank is found among all of them.
    rw [Form.contains_eq_isSome_get?, get?_ofQuery_false, Option.isSome_map,
      List.find?_isSome] at hname
    obtain ⟨x, hx, hp⟩ := hname
    rw [Form.contains_eq_isSome_get?, get?_ofQuery, Option.isSome_map, List.find?_isSome]
    exact ⟨x, hx, (Bool.and_eq_true_iff.1 hp).1⟩
  · rw [get?_ofQuery, hfirst, Option.map_some]
  · have hfound := find?_and_of_find? (q := fun x => !x.isBlank) hfirst (by rw [hblank]; rfl)
    rw [get?_ofQuery_false, hfound, Option.map_some]

/-- A name whose first value is blank and whose second one is an ill-formed byte, one whose only
value is blank, and a stray `%`. -/
theorem form_without_blank_values_of_late_value :
    let query := "a=&b=%&a=%FF&c&a=1"
    let first : Field := ⟨"a", some ""⟩
    (fields true query.toList).find? (·.name == "a") = some first ∧ first.isBlank = true ∧
      (Form.ofQuery true query).get? "a" = some (some "") ∧
      (Form.ofQuery false query).get? "a" = some (some "\uFFFD") ∧
      (Form.ofQuery false query).fields = [⟨"b", some "%"⟩, ⟨"a", some "\uFFFD"⟩] := by
  intro query first
  have hfirst : (fields true query.toList).find? (·.name == "a") = some first := by decide +kernel
  have hblank : first.isBlank = true := by decide
  obtain ⟨-, -, -, hnames⟩ := form_without_blank_values query
  obtain ⟨hfull, -, hlate⟩ := hnames "a" first hfirst
  exact ⟨hfirst, hblank, hfull, (hlate hblank).trans (by decide +kernel), by decide +kernel⟩

end UrlEncoded

end FormReply
