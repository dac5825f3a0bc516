import FormReply.Proofs.Form.Blank
import FormReply.Proofs.Json.RoundTrip
import FormReply.Proofs.Multipart.Grammar

/-!
# Absent values

A content stands between two line ends, which are ASCII, whatever the boundary is made of.  So in a
body that is a text as a whole every content is a piece of that text, and reading it strictly or
lossily makes no difference.  A value can be absent only where a file that is no text comes first
under its name.

* `exists_content_between`: **a content** stands between two line ends;
* `exists_piece_of_parts`: in a text, it is a piece of the text;
* `mem_fields_ofParts_iff`: the fields of a multipart form are those of the first parts of their
  names;
* `mem_fields_absent_iff`: **the absent values** of a form;
* `values_of_body`: the values of a body that is a text, and of any other.
-/

namespace FormReply

namespace Multipart

/-! ### Contents -/

/-- **A content** stands between two line ends. -/
theorem IsClosedStream.exists_content_between {boundary s : Bytes} {ps : List Part}
    (h : IsClosedStream boundary ps s) {p : Part} (hp : p ∈ ps) :
    ∃ before after, s = before ++ 10 :: (p.content ++ 13 :: after) := by
  induction h with
  | closing => exact absurd hp List.not_mem_nil
  | @part q qs frame t hf _ ih =>
    rcases List.mem_cons.1 hp with rfl | hp
    · obtain ⟨pad, block, headers, content, -, -, -, -, rfl, rfl⟩ := hf
      refine ⟨pad ++ Bytes.crlf ++ block ++ [13, 10, 13], 10 :: (dashBoundary boundary ++ t), ?_⟩
      simp [headersEnd, delimiter, Bytes.crlf, Part.ofHeaders]
    · obtain ⟨before, after, rfl⟩ := ih hp
      exact ⟨frame ++ before, after, by rw [List.append_assoc]⟩

/-- **In a body that is a text**, every content is a piece of the text. -/
theorem exists_piece_of_parts {boundary body : Bytes} {ps : List Part}
    (h : parts boundary body = .ok ps) {text : List Char} (ht : Utf8.decode? body = some text)
    {p : Part} (hp : p ∈ ps) :
    ∃ piece, Utf8.decode? p.content = some piece ∧ piece <:+: text := by
  obtain ⟨preamble, stream, epilogue, -, hs, rfl⟩ := parts_eq_ok_iff.1 h
  obtain ⟨before, after, rfl⟩ := hs.exists_content_between hp
  refine Utf8.exists_infix_of_decode? (a := preamble ++ dashBoundary boundary ++ before) (x := 10)
    (y := 13) (b := after ++ epilogue) (by decide) (by decide) ?_
  rw [← ht]
  simp only [List.append_assoc, List.cons_append]

namespace Part

/-- A content that is a text is the value, of a file as of any other part. -/
theorem value_of_decode? {p : Part} {text : List Char} (h : Utf8.decode? p.content = some text) :
    p.value = some (String.ofList text) := by
  unfold value
  split
  · rw [h, Option.map_some]
  · rw [Utf8.decodeLossy_of_decode? h]

/-- A value is absent exactly if a file is no text. -/
theorem value_eq_none_iff {p : Part} :
    p.value = none ↔ p.isFile = true ∧ Utf8.decode? p.content = none := by
  unfold value
  split
  · next h => rw [Option.map_eq_none_iff, and_iff_right h]
  · next h => simp [h]

end Part

/-- **The fields of a multipart form** are those of the first parts of their names. -/
theorem mem_fields_ofParts_iff {ps : List Part} {x : Field} :
    x ∈ (Form.ofList (ps.filterMap Part.field?)).fields ↔
      ∃ p, ps.find? (fun p => p.name = some x.name) = some p ∧ p.value = x.value := by
  have hname : (fun p : Part => p.field?.any (·.name == x.name)) =
      fun p => decide (p.name = some x.name) := by
    funext p
    cases hp : p.name with
    | none => simp [Part.field?_of_unnamed hp]
    | some name => simp [Part.field?_of_name hp, Bool.beq_eq_decide_eq]
  rw [Form.mem_fields_ofList_iff, List.find?_filterMap, hname, Option.bind_eq_some_iff]
  refine exists_congr fun p => and_congr_right fun hp => ?_
  have hn : p.name = some x.name := by
    have := List.find?_some hp
    exact of_decide_eq_true this
  rw [Part.field?_of_name hn, Option.some_inj]
  exact ⟨fun hx => congrArg Field.value hx, fun hv => by rw [hv]⟩

end Multipart

/-! ### Forms -/

namespace Form

open Multipart

variable {contentType : String} {keepBlank : Bool} {body : Bytes} {form : Form}

/-- **A value is absent** exactly in a multipart form, where the first part of its name is a file
that is no text. -/
theorem mem_fields_absent_iff (h : ofBody contentType keepBlank body = .ok form) (name : String) :
    ⟨name, none⟩ ∈ form.fields ↔ ContentType.essence contentType = "multipart/form-data" ∧
      ∃ boundary ps p, ContentType.boundary contentType = .ok boundary ∧
        parts (Bytes.ofString boundary) body = .ok ps ∧
        ps.find? (fun p => p.name = some name) = some p ∧ p.isFile = true ∧
        Utf8.decode? p.content = none := by
  obtain ⟨l, hl, rfl⟩ := ofBody_eq_ok_iff.1 h
  rw [← ContentType.encoding_eq_multipart_iff]
  cases he : ContentType.encoding contentType with
  | urlEncoded =>
    rw [fieldsOfBody_of_urlEncoded he, Except.ok.injEq] at hl
    subst hl
    constructor
    · intro hx
      obtain ⟨value, hv⟩ := UrlEncoded.exists_value_of_mem_fields (mem_of_mem_fields_ofList hx)
      exact absurd hv (by simp)
    · rintro ⟨hm, -⟩
      exact absurd hm (by simp)
  | unsupported =>
    rw [fieldsOfBody, he] at hl
    exact absurd hl (by simp)
  | multipart =>
    obtain ⟨boundary, ps, hb, hps, rfl⟩ := exists_parts_of_fieldsOfBody he hl
    rw [mem_fields_ofParts_iff]
    constructor
    · rintro ⟨p, hp, hv⟩
      exact ⟨rfl, boundary, ps, p, hb, hps, hp, Part.value_eq_none_iff.1 hv⟩
    · rintro ⟨-, boundary', ps', p, hb', hps', hp, hfile⟩
      obtain rfl : boundary = boundary' := Except.ok.inj (hb.symm.trans hb')
      obtain rfl : ps = ps' := Except.ok.inj (hps.symm.trans hps')
      exact ⟨p, hp, Part.value_eq_none_iff.2 hfile⟩

/-- In a body that is a text, every field has a value. -/
theorem exists_pairs_of_text (h : ofBody contentType keepBlank body = .ok form) {text : List Char}
    (ht : Utf8.decode? body = some text) :
    ∃ pairs : List (String × String),
      form.fields = pairs.map fun pair => ⟨pair.1, some pair.2⟩ := by
  refine ⟨form.fields.map fun x => (x.name, x.value.getD ""), ?_⟩
  rw [List.map_map]
  refine (List.map_id' form.fields).symm.trans (List.map_congr_left fun x hx => ?_)
  obtain ⟨name, value⟩ := x
  cases value with
  | some value => rfl
  | none =>
    obtain ⟨-, boundary, ps, p, -, hps, hp, -, hnone⟩ := (mem_fields_absent_iff h name).1 hx
    obtain ⟨piece, hpiece, -⟩ := exists_piece_of_parts hps ht (List.mem_of_find?_eq_some hp)
    rw [hnone] at hpiece
    exact absurd hpiece (by simp)

/-- In a multipart body that is a text, a value is the content of the first part of its name, and a
piece of the text; with or without a file's name, the part would have the same value. -/
theorem exists_piece_of_mem_fields (h : ofBody contentType keepBlank body = .ok form)
    (hm : ContentType.isMultipart contentType = true) {text : List Char}
    (ht : Utf8.decode? body = some text) :
    ∃ boundary ps, ContentType.boundary contentType = .ok boundary ∧
      parts (Bytes.ofString boundary) body = .ok ps ∧
      ∀ x ∈ form.fields, ∃ p value, ps.find? (fun p => p.name = some x.name) = some p ∧
        x.value = some value ∧ p.content = Bytes.ofString value ∧ value.toList <:+: text ∧
        ∀ isFile, { p with isFile }.value = some value := by
  obtain ⟨l, hl, rfl⟩ := ofBody_eq_ok_iff.1 h
  obtain ⟨boundary, ps, hb, hps, rfl⟩ :=
    exists_parts_of_fieldsOfBody (of_decide_eq_true hm) hl
  refine ⟨boundary, ps, hb, hps, fun x hx => ?_⟩
  obtain ⟨p, hp, hv⟩ := mem_fields_ofParts_iff.1 hx
  obtain ⟨piece, hpiece, hinfix⟩ := exists_piece_of_parts hps ht (List.mem_of_find?_eq_some hp)
  refine ⟨p, String.ofList piece, hp, ?_, Utf8.eq_ofString_of_decode? hpiece, ?_, fun isFile => ?_⟩
  · rw [← hv, Part.value_of_decode? hpiece]
  · rwa [String.toList_ofList]
  · exact Part.value_of_decode? (p := { p with isFile }) hpiece

/-- **The values of a body.**  If the body is a text as a whole, every field of its form has a
value, so the form is written as an object of strings.  If it is a multipart body besides, every
value is a piece of the text: the content of the first part of its name, which would have the same
value with or without a file's name.  In the form of any other body a value is absent exactly if the
media type announces parts and the first part of its name is a file that is no text. -/
theorem values_of_body (h : ofBody contentType keepBlank body = .ok form) :
    (∀ text, Utf8.decode? body = some text →
      (∃ pairs : List (String × String),
        form.fields = pairs.map (fun pair => ⟨pair.1, some pair.2⟩) ∧
          Json.read? form.write = some (.obj (pairs.map fun pair => (pair.1, .str pair.2)))) ∧
      (ContentType.isMultipart contentType = true →
        ∃ boundary ps, ContentType.boundary contentType = .ok boundary ∧
          parts (Bytes.ofString boundary) body = .ok ps ∧
          ∀ x ∈ form.fields, ∃ p value, ps.find? (fun p => p.name = some x.name) = some p ∧
            x.value = some value ∧ p.content = Bytes.ofString value ∧ value.toList <:+: text ∧
            ∀ isFile, { p with isFile }.value = some value)) ∧
      ∀ name, ⟨name, none⟩ ∈ form.fields ↔
        ContentType.essence contentType = "multipart/form-data" ∧
          ∃ boundary ps p, ContentType.boundary contentType = .ok boundary ∧
            parts (Bytes.ofString boundary) body = .ok ps ∧
            ps.find? (fun p => p.name = some name) = some p ∧ p.isFile = true ∧
            Utf8.decode? p.content = none := by
  refine ⟨fun text ht => ⟨?_, fun hm => exists_piece_of_mem_fields h hm ht⟩,
    mem_fields_absent_iff h⟩
  obtain ⟨pairs, hpairs⟩ := exists_pairs_of_text h ht
  have hread : Json.read? form.write = some form.toJson := Json.read?_write form.toJson
  refine ⟨pairs, hpairs, ?_⟩
  rw [hread, toJson, hpairs, List.map_map]
  rfl

/-- A boundary beyond ASCII, a file that is a text, and a file that ends within a character before a
part of the same name. -/
theorem values_of_body_of_torn_file :
    let contentType := "multipart/form-data; boundary=\"\u00E9\""
    let file := "--\u00E9\r\nContent-Disposition: form-data; name=a; filename=x\r\n\r\n"
    let whole := Bytes.ofString (file ++ "\u00FC\r\n--\u00E9--")
    let torn := Bytes.ofString file ++ 0xC3 :: Bytes.ofString ("\r\n" ++ file ++ "1\r\n--\u00E9--")
    ofBody contentType false whole = .ok { fields := [⟨"a", some "\u00FC"⟩] } ∧
      (∃ text, Utf8.decode? whole = some text ∧ "\u00FC".toList <:+: text) ∧
      ofBody contentType false torn = .ok { fields := [⟨"a", none⟩] } ∧
      ∃ boundary ps p, ContentType.boundary contentType = .ok boundary ∧
        parts (Bytes.ofString boundary) torn = .ok ps ∧
        ps.find? (fun p => p.name = some "a") = some p ∧ p.isFile = true ∧
        Utf8.decode? p.content = none := by
  intro contentType file whole torn
  have hwhole : ofBody contentType false whole = .ok { fields := [⟨"a", some "\u00FC"⟩] } := by
    decide +kernel
  have htorn : ofBody contentType false torn = .ok { fields := [⟨"a", none⟩] } := by decide +kernel
  have htext := Utf8.decode?_encode (file ++ "\u00FC\r\n--\u00E9--").toList
  refine ⟨hwhole, ⟨_, htext, ?_⟩, htorn, ?_⟩
  · obtain ⟨-, hparts⟩ := (values_of_body hwhole).1 _ htext
    obtain ⟨_, _, -, -, hfields⟩ := hparts (by decide +kernel)
    obtain ⟨_, value, -, hvalue, -, hinfix, -⟩ := hfields _ List.mem_cons_self
    rwa [Option.some.inj hvalue]
  · exact (((values_of_body htorn).2 "a").1 List.mem_cons_self).2

end Form

end FormReply
