import FormReply.Form.Body
import FormReply.Proofs.Outcomes

/-!
# Bodies by their media type

The media type of a content type decides how a body is decoded; here each case is one equation.

* `encoding_eq_multipart_iff`, `encoding_eq_urlEncoded_iff`: the media types of the two encodings;
* `fieldsOfBody_of_urlEncoded`: the fields of a URL-encoded body;
* `fieldsOfBody_of_parts`, `fieldsOfBody_of_parts_error`: the fields of a multipart body, which are
  those of its named parts, and its faults.
-/

namespace FormReply

namespace ContentType

theorem encoding_eq_multipart_iff {contentType : String} :
    encoding contentType = .multipart ↔ essence contentType = "multipart/form-data" := by
  unfold encoding
  dsimp only
  split
  · next h =>
    constructor
    · intro h'; simp at h'
    · intro h'
      rw [h'] at h
      exact absurd h (by decide)
  · split <;> simp_all

theorem encoding_eq_urlEncoded_iff {contentType : String} :
    encoding contentType = .urlEncoded ↔
      essence contentType = "" ∨ essence contentType = "application/x-www-form-urlencoded" := by
  unfold encoding
  dsimp only
  split
  · next h => simp [h]
  · next h => split <;> simp [h]

end ContentType

namespace Form

variable {contentType : String} {body : Bytes}

theorem fieldsOfBody_of_urlEncoded (h : ContentType.encoding contentType = .urlEncoded)
    (keepBlank : Bool) (body : Bytes) :
    fieldsOfBody contentType keepBlank body =
      .ok (UrlEncoded.fields keepBlank (Utf8.decodeLossy body)) := by
  simp [fieldsOfBody, h]

/-- **The fields of a multipart body** are those of its named parts. -/
theorem fieldsOfBody_of_parts (h : ContentType.encoding contentType = .multipart)
    (keepBlank : Bool) {boundary : String} (hb : ContentType.boundary contentType = .ok boundary)
    {ps : List Multipart.Part} (hp : Multipart.parts (Bytes.ofString boundary) body = .ok ps) :
    fieldsOfBody contentType keepBlank body = .ok (ps.filterMap Multipart.Part.field?) := by
  simp [fieldsOfBody, h, Multipart.partsOfBody, hb, hp]

/-- A body that is no stream of parts is refused as such. -/
theorem fieldsOfBody_of_parts_error (h : ContentType.encoding contentType = .multipart)
    (keepBlank : Bool) {boundary : String} (hb : ContentType.boundary contentType = .ok boundary)
    {e : Multipart.StreamError} (hp : Multipart.parts (Bytes.ofString boundary) body = .error e) :
    fieldsOfBody contentType keepBlank body = .error (.multipart (.stream e)) := by
  simp [fieldsOfBody, h, Multipart.partsOfBody, hb, hp]

/-- A multipart body that is decoded has a boundary and parts. -/
theorem exists_parts_of_fieldsOfBody (h : ContentType.encoding contentType = .multipart)
    {keepBlank : Bool} {l : List Field} (hl : fieldsOfBody contentType keepBlank body = .ok l) :
    ∃ boundary ps, ContentType.boundary contentType = .ok boundary ∧
      Multipart.parts (Bytes.ofString boundary) body = .ok ps ∧
      l = ps.filterMap Multipart.Part.field? := by
  unfold fieldsOfBody Multipart.partsOfBody at hl
  rw [h] at hl
  cases hb : ContentType.boundary contentType with
  | error e => simp [hb] at hl
  | ok boundary =>
    cases hp : Multipart.parts (Bytes.ofString boundary) body with
    | error e => simp [hb, hp] at hl
    | ok ps =>
      simp only [hb, hp, Except.ok.injEq] at hl
      exact ⟨boundary, ps, rfl, hp, hl.symm⟩

/-- The form of a body keeps the first of its fields of each name. -/
theorem ofBody_eq_ok_iff {keepBlank : Bool} {form : Form} :
    ofBody contentType keepBlank body = .ok form ↔
      ∃ l, fieldsOfBody contentType keepBlank body = .ok l ∧ form = ofList l := by
  rw [ofBody, map_eq_ok_iff]
  simp only [@eq_comm _ form]

theorem ofBody_eq_error {keepBlank : Bool} {e : FormError}
    (h : fieldsOfBody contentType keepBlank body = .error e) :
    ofBody contentType keepBlank body = .error e := by
  rw [ofBody, h]; rfl

end Form

end FormReply
