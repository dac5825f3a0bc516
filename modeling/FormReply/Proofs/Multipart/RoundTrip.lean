import FormReply.Form.FirstOccurrence
import FormReply.Proofs.ContentType
import FormReply.Proofs.Form.Body
import FormReply.Proofs.Multipart.Disposition
import FormReply.Proofs.Multipart.Grammar
import FormReply.Proofs.Multipart.Header

/-!
# Multipart streams there and back

A written stream fits the grammar of the streams that are read: its preamble does not hold the first
delimiter, no header holds an empty line, and no content holds a delimiter.  So its parts are read
back, in order, whatever their contents look like otherwise.

* `IsSendable`: the parts that are read back;
* `isFrame_write`: **one part** is one frame;
* `isClosedStream_write`: the parts in a row, by induction;
* `parts_write`: **a written stream** is read as its parts;
* `ofBody_write`: the form of a written stream.
-/

namespace FormReply.Multipart

open FormReply.Utf8 (encode)

/-! ### Headers -/

theorem isValueByte_of_mem_encode {s : String} (h : IsPlain s) {b : UInt8}
    (hb : b ∈ encode s.toList) : Header.isValueByte b = true := by
  rw [Header.isValueByte_iff]
  by_cases hlt : b < 0x80
  · have hr := h.control _ (Utf8.mem_of_mem_encode hlt hb)
    rw [Utf8.toNat_asciiChar] at hr
    exact Or.inr hr
  · rw [UInt8.lt_iff_toNat_lt] at hlt
    change ¬ b.toNat < 128 at hlt
    omega

theorem mem_escapeBytes {s : Bytes} {b : UInt8} (h : b ∈ escapeBytes s) : b ∈ s ∨ b = 0x5C := by
  rw [escapeBytes, List.mem_flatMap] at h
  obtain ⟨c, hc, hb⟩ := h
  split at hb
  · next he =>
    rw [he] at hc
    simp only [List.mem_cons, List.not_mem_nil, or_false] at hb
    rcases hb with rfl | rfl
    · exact Or.inr rfl
    · exact Or.inl hc
  · rw [List.mem_singleton.1 hb]
    exact Or.inl hc

/-- An attribute fits on a line if its value is plain. -/
theorem isValueByte_of_mem_writeAttribute {a : Attribute} {value : Option String}
    (h : ∀ s ∈ value, IsPlain s) : ∀ b ∈ writeAttribute a value, Header.isValueByte b = true := by
  cases value with
  | none => simp [writeAttribute]
  | some s =>
    intro b hb
    rw [writeAttribute_some, List.mem_append, List.mem_append] at hb
    simp only [List.mem_cons, List.mem_append, List.not_mem_nil, or_false] at hb
    rcases hb with (hb | hb) | rfl | rfl | hb | rfl
    · have hall : ∀ b ∈ Bytes.ofString "; ", Header.isValueByte b = true :=
        all_decide_iff.1 (by decide)
      exact hall b hb
    · have hall : ∀ b ∈ a.key, Header.isValueByte b = true := by
        cases a <;> exact all_decide_iff.1 (by decide)
      exact hall b hb
    · decide
    · decide
    · rcases mem_escapeBytes hb with hb | rfl
      · exact isValueByte_of_mem_encode (h s rfl) hb
      · decide
    · decide

theorem getLast?_writeAttribute (a : Attribute) (value : Option String) :
    (writeAttribute a value).getLast? = value.map fun _ => 0x22 := by
  cases value with
  | none => rfl
  | some s => rw [writeAttribute, List.getLast?_concat]; rfl

namespace Outgoing

/-- The part is read back: its texts are plain, only a part with a name carries a file, the name
does not hold the key of a file, and the content does not hold a delimiter. -/
structure IsSendable (boundary : Bytes) (p : Outgoing) : Prop where
  named : p.filename.isSome → p.name.isSome
  name : ∀ s ∈ p.name, IsPlainName s
  filename : ∀ s ∈ p.filename, IsPlain s
  content : ¬ delimiter boundary <:+: p.content

instance (boundary : Bytes) (p : Outgoing) : Decidable (p.IsSendable boundary) :=
  decidable_of_iff ((p.filename.isSome → p.name.isSome) ∧ (∀ s ∈ p.name, IsPlainName s) ∧
    (∀ s ∈ p.filename, IsPlain s) ∧ ¬ delimiter boundary <:+: p.content)
    ⟨fun h => ⟨h.1, h.2.1, h.2.2.1, h.2.2.2⟩, fun h => ⟨h.1, h.2, h.3, h.4⟩⟩

/-- The part as it is received. -/
def received (p : Outgoing) : Part := ⟨p.name, p.filename.isSome, p.content⟩

/-- The only header of a part. -/
def dispositionHeader (p : Outgoing) : Header :=
  ⟨Bytes.ofString "Content-Disposition", p.disposition⟩

variable {boundary : Bytes} {p : Outgoing}

theorem header_eq_write (p : Outgoing) : p.header = p.dispositionHeader.write := by
  have hs : Bytes.ofString "Content-Disposition: form-data" =
      Bytes.ofString "Content-Disposition" ++ 0x3A :: 0x20 :: Bytes.ofString "form-data" := by
    decide +kernel
  rw [header, hs, Header.write, dispositionHeader, disposition]
  simp only [List.append_assoc, List.cons_append]

theorem IsSendable.isWritable (h : p.IsSendable boundary) : p.dispositionHeader.IsWritable where
  name_ne_nil := by
    show Bytes.ofString "Content-Disposition" ≠ []
    decide
  token := by
    show ∀ b ∈ Bytes.ofString "Content-Disposition", Text.isTokenByte b = true
    exact all_decide_iff.1 (by decide)
  value := by
    intro b hb
    change b ∈ p.disposition at hb
    rw [disposition, List.mem_append, List.mem_append] at hb
    rcases hb with (hb | hb) | hb
    · have hall : ∀ b ∈ Bytes.ofString "form-data", Header.isValueByte b = true :=
        all_decide_iff.1 (by decide)
      exact hall b hb
    · exact isValueByte_of_mem_writeAttribute (fun s hs => (h.name s hs).toIsPlain) b hb
    · exact isValueByte_of_mem_writeAttribute h.filename b hb
  first := by
    intro b hb
    obtain ⟨t, ht⟩ : ∃ t, p.dispositionHeader.value = 0x66 :: t := ⟨_, rfl⟩
    rw [ht, List.head?_cons, Option.mem_some_iff] at hb
    rw [← hb]
    decide
  last := by
    intro b hb
    change b ∈ p.disposition.getLast? at hb
    have hkind : (Bytes.ofString "form-data").getLast? = some 0x61 := by decide
    rw [disposition, List.getLast?_append, List.getLast?_append, getLast?_writeAttribute,
      getLast?_writeAttribute, hkind] at hb
    have hlast : 0x22 = b ∨ 0x61 = b := by
      cases hf : p.filename with
      | some f => exact Or.inl (by simpa [hf] using hb)
      | none =>
        cases hn : p.name with
        | some n => exact Or.inl (by simpa [hf, hn] using hb)
        | none => exact Or.inr (by simpa [hf, hn] using hb)
    rcases hlast with rfl | rfl <;> decide

theorem readHeaders_header (h : p.IsSendable boundary) :
    readHeaders (p.header ++ Bytes.crlf) = .ok [p.dispositionHeader] := by
  have hfind : [p.dispositionHeader].find? (fun h => decide (maxHeaderName < h.name.length)) =
      none := by
    rw [List.find?_singleton, if_neg]
    show ¬ decide (maxHeaderName < (Bytes.ofString "Content-Disposition").length) = true
    decide
  rw [readHeaders, header_eq_write, Header.parse?_write h.isWritable]
  simp only [hfind]

/-- **What the headers of a part announce.** -/
theorem ofHeaders_dispositionHeader (h : p.IsSendable boundary) :
    Part.ofHeaders [p.dispositionHeader] p.content = p.received := by
  have hget : Header.get? [p.dispositionHeader] (Bytes.ofString "content-disposition") =
      some p.disposition := by
    have hname : (Bytes.ofString "Content-Disposition").map Header.lowerByte =
        Bytes.ofString "content-disposition" := by decide +kernel
    simp [Header.get?, dispositionHeader, hname]
  have hname := text?_name h.named fun s hs => (h.name s hs).toIsPlain
  have hfile := text?_filename h.named h.name h.filename
  rw [Part.ofHeaders, hget, received]
  simp only [Option.bind_some, hname, hfile]

end Outgoing

/-! ### Streams -/

/-- A boundary, as bytes without line ends. -/
theorem not_mem_of_isBoundary {boundary : String} (h : ContentType.IsBoundary boundary) {b : UInt8}
    (hb : b.toNat < 0x2D) : b ∉ Bytes.ofString boundary := by
  intro hm
  have hlt : b < 0x80 := by
    rw [UInt8.lt_iff_toNat_lt]
    show b.toNat < 128
    omega
  have hr := h.range (Utf8.mem_of_mem_encode hlt hm)
  rw [Utf8.toNat_asciiChar] at hr
  omega

section Streams

variable {boundary : Bytes} (hcr : 13 ∉ boundary)
include hcr

/-- **One part** is one frame. -/
theorem isFrame_write {p : Outgoing} (h : p.IsSendable boundary) :
    IsFrame boundary p.received
      (Bytes.crlf ++ (p.header ++ (Bytes.crlf ++ (p.content ++ delimiter boundary)))) := by
  have hw := h.isWritable
  let block := p.dispositionHeader.name ++ 0x3A :: 0x20 :: p.dispositionHeader.value
  have hheader : p.header = block ++ Bytes.crlf := by
    rw [Outgoing.header_eq_write, Header.write]
    simp only [block, List.append_assoc, List.cons_append]
  have hblock : 10 ∉ block := by
    intro hm
    simp only [block, List.mem_append, List.mem_cons] at hm
    rcases hm with hm | hm | hm | hm
    · exact absurd (hw.token 10 hm) (by decide)
    · exact absurd hm (by decide)
    · exact absurd hm (by decide)
    · exact absurd (hw.value 10 hm) (by decide)
  have hcontent : Bytes.FirstBehind (delimiter boundary) p.content := by
    have hd : 13 ∉ 10 :: dashBoundary boundary := by simp [dashBoundary, hcr]
    exact Bytes.firstBehind_of_not_infix hd h.content
  refine ⟨[], block, [p.dispositionHeader], p.content, by simp,
    Bytes.firstBehind_of_count hblock (by decide), ?_, hcontent,
    (Outgoing.ofHeaders_dispositionHeader h).symm, ?_⟩
  · have hread := Outgoing.readHeaders_header h
    rwa [hheader, List.append_assoc] at hread
  · rw [hheader, headersEnd]
    simp only [List.append_assoc, List.nil_append]

/-- **The parts in a row** are a closed stream behind the first delimiter. -/
theorem isClosedStream_write {ps : List Outgoing} (h : ∀ p ∈ ps, p.IsSendable boundary) :
    ∃ stream, write boundary ps = dashBoundary boundary ++ stream ∧
      IsClosedStream boundary (ps.map Outgoing.received) stream := by
  induction ps with
  | nil => exact ⟨closing, rfl, .closing⟩
  | cons p ps ih =>
    obtain ⟨stream, hs, hclosed⟩ := ih fun q hq => h q (List.mem_cons_of_mem _ hq)
    refine ⟨_, ?_, .part (isFrame_write hcr (h p List.mem_cons_self)) hclosed⟩
    have hcons : write boundary (p :: ps) = p.write boundary ++ write boundary ps := by
      rw [write, write, List.flatMap_cons, List.append_assoc, List.append_assoc, List.append_assoc]
    rw [hcons, hs, Outgoing.write, delimiter]
    simp only [List.append_assoc]

/-- **A written stream** is read as its parts, behind any preamble without the first delimiter and
before any epilogue. -/
theorem parts_write (hlf : 10 ∉ boundary) {ps : List Outgoing}
    (h : ∀ p ∈ ps, p.IsSendable boundary) {preamble : Option Bytes}
    (hp : ∀ s ∈ preamble, ¬ dashBoundary boundary <:+: s)
    (epilogue : Bytes) :
    parts boundary (preamble.elim [] (· ++ Bytes.crlf) ++ write boundary ps ++ epilogue) =
      .ok (ps.map Outgoing.received) := by
  have hfirst : Bytes.FirstBehind (dashBoundary boundary)
      (preamble.elim [] (· ++ Bytes.crlf)) := by
    cases preamble with
    | none => exact Bytes.firstBehind_nil (dashBoundary_ne_nil boundary)
    | some s =>
      exact Bytes.firstBehind_crlf (dashBoundary_ne_nil boundary) (by simp [dashBoundary, hcr])
        (by simp [dashBoundary, hlf]) (hp s rfl)
  obtain ⟨stream, hs, hclosed⟩ := isClosedStream_write hcr h
  refine parts_eq_ok_iff.2 ⟨_, stream, epilogue, hfirst, hclosed, ?_⟩
  rw [hs]
  simp only [List.append_assoc]

end Streams

/-! ### Forms -/

/-- **Decoding undoes encoding.**  Parts are written with a boundary that is announced in either
spelling, behind an optional preamble and before any epilogue.  They are read as the form of the
named parts, in order, the first one of each name: the content of a file if it is well-formed, and
any other content with its faults replaced. -/
theorem ofBody_write {boundary : String} (hb : ContentType.IsBoundary boundary) (isQuoted : Bool)
    (keepBlank : Bool) {ps : List Outgoing}
    (h : ∀ p ∈ ps, p.IsSendable (Bytes.ofString boundary)) {preamble : Option Bytes}
    (hp : ∀ s ∈ preamble, ¬ dashBoundary (Bytes.ofString boundary) <:+: s) (epilogue : Bytes) :
    Form.ofBody (ContentType.announce isQuoted boundary) keepBlank
        (preamble.elim [] (· ++ Bytes.crlf) ++ write (Bytes.ofString boundary) ps ++ epilogue) =
      .ok ⟨firstOccurrences (ps.filterMap fun p => p.name.map fun name => ⟨name,
        if p.filename.isSome then (Utf8.decode? p.content).map String.ofList
        else some (String.ofList (Utf8.decodeLossy p.content))⟩), nodup_firstOccurrences _⟩ := by
  have he := ContentType.encoding_eq_multipart_iff.2
    (ContentType.essence_announce isQuoted boundary)
  have hparts := parts_write (not_mem_of_isBoundary hb (by decide))
    (not_mem_of_isBoundary hb (by decide)) h hp epilogue
  refine Form.ofBody_eq_ok_iff.2 ⟨_, Form.fieldsOfBody_of_parts he keepBlank
    (ContentType.boundary_announce hb isQuoted) hparts, ?_⟩
  apply Form.ext
  rw [Form.fields_ofList, List.filterMap_map]
  rfl

/-- Contents that look like delimiters and headers, quotes and keys within texts, a file that is no
text, and a name that two parts share. -/
theorem ofBody_write_lookalikes :
    let boundary := "-B_1"
    let ps : List Outgoing :=
      [⟨some "n\\\"; name=\"\u00FC", none, Bytes.ofString "\r\n\r\n--B\r\n-" ++ [0xFF] ++
          Bytes.ofString "\r\n--"⟩,
        ⟨none, none, Bytes.ofString "Content-Disposition: form-data; name=z\r\n\r\n"⟩,
        ⟨some "f", some "C:\\x\"; filename=\"y", [0xFF]⟩, ⟨some "f", none, []⟩,
        ⟨some "", some "", [0xC3, 0xA9]⟩]
    let preamble := some (Bytes.ofString "--B\r\n--")
    ContentType.IsBoundary boundary ∧ (∀ p ∈ ps, p.IsSendable (Bytes.ofString boundary)) ∧
      (∀ s ∈ preamble, ¬ dashBoundary (Bytes.ofString boundary) <:+: s) ∧
      Form.ofBody (ContentType.announce true boundary) false (preamble.elim [] (· ++ Bytes.crlf) ++
          write (Bytes.ofString boundary) ps ++ Bytes.ofString "\r\n---B_1\r\n") =
        .ok {
          fields := [⟨"n\\\"; name=\"\u00FC", some "\r\n\r\n--B\r\n-\uFFFD\r\n--"⟩,
            ⟨"f", none⟩, ⟨"", some "\u00E9"⟩] } :=
  ⟨by decide +kernel, by decide +kernel, by decide +kernel,
    (ofBody_write (by decide +kernel) true false (by decide +kernel) (by decide +kernel) _).trans
      (by decide +kernel)⟩

end FormReply.Multipart
