import FormReply.Multipart.Stream
import FormReply.Proofs.Bytes.Search
import Mathlib.Data.List.TakeWhile

/-!
# The grammar of multipart streams

A *frame* is what one part takes up in a stream, from behind a delimiter up to and with the next
one.  A *closed stream* is a sequence of frames and the two hyphens that close the last delimiter.
Reading a body accepts exactly a preamble, the first delimiter, a closed stream and any epilogue.

* `nextPart_eq_part_iff`: one step reads one frame;
* `partsAfter_eq_ok_iff`: a run reads a closed stream;
* `parts_eq_ok_iff`: **the grammar** of the bodies that are read.
-/

namespace FormReply.Multipart

/-- The two hyphens behind the last delimiter. -/
def closing : Bytes := [0x2D, 0x2D]

/-- The bytes that a part takes up behind a delimiter: blanks, a line end, the header block with the
empty line that ends it, the content and the next delimiter. -/
def IsFrame (boundary : Bytes) (p : Part) (frame : Bytes) : Prop :=
  ∃ pad block headers content, (∀ b ∈ pad, Header.isBlankByte b = true) ∧
    Bytes.FirstBehind headersEnd block ∧ readHeaders (block ++ headersEnd) = .ok headers ∧
    Bytes.FirstBehind (delimiter boundary) content ∧ p = Part.ofHeaders headers content ∧
    frame = pad ++ Bytes.crlf ++ (block ++ headersEnd ++ (content ++ delimiter boundary))

/-- The bytes of parts behind a delimiter, up to the hyphens that close the stream. -/
inductive IsClosedStream (boundary : Bytes) : List Part → Bytes → Prop where
  /-- There is no part. -/
  | closing : IsClosedStream boundary [] closing
  /-- There is a part before others. -/
  | part {p : Part} {ps : List Part} {frame s : Bytes} (hf : IsFrame boundary p frame)
      (hs : IsClosedStream boundary ps s) : IsClosedStream boundary (p :: ps) (frame ++ s)

/-! ### Behind a delimiter -/

theorem opening_eq_closed_iff {s : Bytes} : opening s = .closed ↔ ∃ t, s = closing ++ t := by
  constructor
  · intro h
    unfold opening at h
    split at h
    · next t => exact ⟨t, rfl⟩
    · split at h <;> simp at h
  · rintro ⟨t, rfl⟩
    rfl

theorem dropWhile_isBlankByte_append {pad : Bytes} (h : ∀ b ∈ pad, Header.isBlankByte b = true)
    (rest : Bytes) :
    (pad ++ Bytes.crlf ++ rest).dropWhile Header.isBlankByte = 13 :: 10 :: rest := by
  rw [List.append_assoc, List.dropWhile_append_of_pos h]
  rfl

theorem opening_eq_part_iff {s rest : Bytes} : opening s = .part rest ↔
    ∃ pad, (∀ b ∈ pad, Header.isBlankByte b = true) ∧ s = pad ++ Bytes.crlf ++ rest := by
  constructor
  · intro h
    unfold opening at h
    split at h
    · simp at h
    · split at h
      · next hd =>
        obtain rfl := Opening.part.inj h
        refine ⟨s.takeWhile Header.isBlankByte, fun b hb => List.mem_takeWhile_imp hb, ?_⟩
        rw [List.append_assoc]
        exact (List.takeWhile_append_dropWhile.symm.trans (by rw [hd]; rfl))
      · simp at h
  · rintro ⟨pad, hpad, rfl⟩
    unfold opening
    split
    · next t ht =>
      -- A frame begins with a blank or a line end, so it is not taken for the end.
      have h := dropWhile_isBlankByte_append hpad rest
      rw [ht] at h
      exact absurd h (by simp [Header.isBlankByte])
    · simp only [dropWhile_isBlankByte_append hpad]

/-! ### One step -/

theorem nextPart_eq_none_iff {boundary s : Bytes} :
    nextPart boundary s = .ok none ↔ ∃ t, s = closing ++ t := by
  rw [← opening_eq_closed_iff]
  constructor
  · intro h
    unfold nextPart at h
    split at h
    · assumption
    · simp at h
    · split at h
      · simp at h
      · split at h
        · simp at h
        · split at h <;> simp at h
  · intro h
    unfold nextPart
    rw [h]

/-- **One step reads one frame.** -/
theorem nextPart_eq_part_iff {boundary s rest : Bytes} {p : Part} :
    nextPart boundary s = .ok (some (p, rest)) ↔
      ∃ frame, IsFrame boundary p frame ∧ s = frame ++ rest := by
  constructor
  · intro h
    unfold nextPart at h
    split at h
    · simp at h
    · simp at h
    · next behind ho =>
      obtain ⟨pad, hpad, rfl⟩ := opening_eq_part_iff.1 ho
      split at h
      · simp at h
      · next block body hb =>
        obtain ⟨rfl, hblock⟩ := (Bytes.breakOn?_eq_some_iff headersEnd_ne_nil).1 hb
        split at h
        · simp at h
        · next headers hh =>
          split at h
          · simp at h
          · next content after hc =>
            obtain ⟨rfl, hcontent⟩ :=
              (Bytes.breakOn?_eq_some_iff (delimiter_ne_nil boundary)).1 hc
            obtain ⟨rfl, rfl⟩ : Part.ofHeaders headers content = p ∧ after = rest := by
              simpa using h
            exact ⟨_, ⟨pad, block, headers, content, hpad, hblock, hh, hcontent, rfl, rfl⟩,
              by simp⟩
  · rintro ⟨_, ⟨pad, block, headers, content, hpad, hblock, hh, hcontent, rfl, rfl⟩, rfl⟩
    have ho : opening (pad ++ Bytes.crlf ++ (block ++ headersEnd ++
        (content ++ delimiter boundary)) ++ rest) =
        .part (block ++ headersEnd ++ (content ++ delimiter boundary ++ rest)) :=
      opening_eq_part_iff.2 ⟨pad, hpad, by simp⟩
    unfold nextPart
    simp only [ho, Bytes.breakOn?_of_firstBehind headersEnd_ne_nil hblock, hh,
      Bytes.breakOn?_of_firstBehind (delimiter_ne_nil boundary) hcontent]

/-! ### A whole run -/

/-- **A run reads a closed stream,** and gives its parts behind those found before. -/
theorem partsAfter_eq_ok_iff {boundary s : Bytes} {found ps : List Part} :
    partsAfter boundary found s = .ok ps ↔
      ∃ qs t epilogue, ps = found.reverse ++ qs ∧ IsClosedStream boundary qs t ∧
        s = t ++ epilogue := by
  constructor
  · intro h
    fun_induction partsAfter boundary found s with
    | case1 => simp at h
    | case2 found s hn =>
      obtain ⟨t, rfl⟩ := nextPart_eq_none_iff.1 hn
      obtain rfl : found.reverse = ps := by simpa using h
      exact ⟨[], closing, t, by simp, .closing, rfl⟩
    | case3 found s p rest hn ih =>
      obtain ⟨frame, hf, rfl⟩ := nextPart_eq_part_iff.1 hn
      obtain ⟨qs, t, epilogue, rfl, hs, rfl⟩ := ih h
      exact ⟨p :: qs, frame ++ t, epilogue, by simp, .part hf hs, by simp⟩
  · rintro ⟨qs, t, epilogue, rfl, hs, rfl⟩
    induction hs generalizing found with
    | closing =>
      rw [partsAfter, nextPart_eq_none_iff.2 ⟨epilogue, rfl⟩, List.append_nil]
    | @part p ps frame s hf hs ih =>
      have hn : nextPart boundary (frame ++ s ++ epilogue) = .ok (some (p, s ++ epilogue)) :=
        nextPart_eq_part_iff.2 ⟨frame, hf, by simp⟩
      rw [partsAfter, hn]
      have hrun := @ih (p :: found)
      simpa using hrun

theorem dashBoundary_ne_nil (boundary : Bytes) : dashBoundary boundary ≠ [] := by
  simp [dashBoundary]

/-- **The grammar of the bodies that are read**: a preamble, the first delimiter, a closed stream
and any epilogue. -/
theorem parts_eq_ok_iff {boundary body : Bytes} {ps : List Part} :
    parts boundary body = .ok ps ↔
      ∃ preamble stream epilogue, Bytes.FirstBehind (dashBoundary boundary) preamble ∧
        IsClosedStream boundary ps stream ∧
        body = preamble ++ dashBoundary boundary ++ (stream ++ epilogue) := by
  constructor
  · intro h
    unfold parts at h
    split at h
    · simp at h
    · next preamble rest hb =>
      obtain ⟨rfl, hp⟩ := (Bytes.breakOn?_eq_some_iff (dashBoundary_ne_nil boundary)).1 hb
      obtain ⟨qs, t, epilogue, rfl, hs, rfl⟩ := partsAfter_eq_ok_iff.1 h
      exact ⟨preamble, t, epilogue, hp, hs, rfl⟩
  · rintro ⟨preamble, stream, epilogue, hp, hs, rfl⟩
    unfold parts
    rw [Bytes.breakOn?_of_firstBehind (dashBoundary_ne_nil boundary) hp]
    exact partsAfter_eq_ok_iff.2 ⟨ps, stream, epilogue, rfl, hs, rfl⟩

end FormReply.Multipart
