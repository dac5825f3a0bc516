import FormReply.Form.FirstOccurrence
import FormReply.Proofs.Form.Body
import FormReply.Proofs.Multipart.Grammar

/-!
# Progress through a multipart stream

Every part takes up the next delimiter and ten bytes more, besides its content: the line end behind
the delimiter before it, the empty line behind its headers with the line end before that, and the
line end and the hyphens of the next delimiter.  So a body is read in fewer steps than it has bytes,
and the number of its parts is bounded by its length.

* `length_of_nextPart`: **what one step takes**;
* `partsAfterWithin`, `partsWithin`: the parts of a body, read in so many steps;
* `partsAfterWithin_eq`: the steps suffice;
* `length_of_parts`: the bound on the parts of a body;
* `steps_and_parts_bounded`: **a stream is read with progress at every step**.
-/

namespace FormReply.Multipart

variable {boundary : Bytes}

/-- The bytes that a part takes up at least, besides its content. -/
def overhead (boundary : Bytes) : Nat := boundary.length + 10

theorem length_dashBoundary (boundary : Bytes) :
    (dashBoundary boundary).length = boundary.length + 2 := rfl

theorem length_delimiter (boundary : Bytes) :
    (delimiter boundary).length = boundary.length + 4 := by
  rw [delimiter, List.length_append, length_dashBoundary, Nat.add_comm]
  rfl

/-- **The bytes of a part**: the content and the overhead, and besides blanks and headers. -/
theorem IsFrame.length_le {p : Part} {frame : Bytes} (h : IsFrame boundary p frame) :
    overhead boundary + p.content.length ≤ frame.length := by
  obtain ⟨pad, block, headers, content, -, -, -, -, rfl, rfl⟩ := h
  have hcontent : (Part.ofHeaders headers content).content = content := rfl
  have hcrlf : Bytes.crlf.length = 2 := rfl
  have hend : headersEnd.length = 4 := rfl
  rw [hcontent, overhead]
  simp only [List.length_append, length_delimiter, hcrlf, hend]
  omega

/-- The bytes of parts up to the hyphens that close the stream. -/
theorem IsClosedStream.length_le {ps : List Part} {s : Bytes} (h : IsClosedStream boundary ps s) :
    ps.length * overhead boundary + (ps.flatMap Part.content).length + 2 ≤ s.length := by
  induction h with
  | closing => simp [Multipart.closing]
  | @part p ps frame s hf hs ih =>
    have hframe := hf.length_le
    rw [List.length_cons, Nat.succ_mul, List.flatMap_cons, List.length_append, List.length_append]
    omega

/-! ### Steps -/

/-- **What one step takes** of the stream: the content of the part and the overhead. -/
theorem length_of_nextPart {s rest : Bytes} {p : Part}
    (h : nextPart boundary s = .ok (some (p, rest))) :
    rest.length + overhead boundary + p.content.length ≤ s.length := by
  obtain ⟨frame, hframe, rfl⟩ := nextPart_eq_part_iff.1 h
  have hlength := hframe.length_le
  rw [List.length_append]
  omega

/-- The parts behind a delimiter, read in so many steps, after those in `found`, last one first;
nothing if the steps do not suffice. -/
def partsAfterWithin (boundary : Bytes) :
    Nat → List Part → Bytes → Option (Except StreamError (List Part))
  | 0, _, _ => none
  | steps + 1, found, s =>
    match nextPart boundary s with
    | .error e => some (.error e)
    | .ok none => some (.ok found.reverse)
    | .ok (some (p, rest)) => partsAfterWithin boundary steps (p :: found) rest

/-- The parts of a body, read in so many steps; nothing if the steps do not suffice. -/
def partsWithin (boundary : Bytes) (steps : Nat) (body : Bytes) :
    Option (Except StreamError (List Part)) :=
  match Bytes.breakOn? (dashBoundary boundary) body with
  | none => some (.error .incomplete)
  | some (_, rest) => partsAfterWithin boundary steps [] rest

/-- **The steps suffice** if the stream is shorter than so many parts without content. -/
theorem partsAfterWithin_eq {steps : Nat} {found : List Part} {s : Bytes}
    (h : s.length < steps * overhead boundary) :
    partsAfterWithin boundary steps found s = some (partsAfter boundary found s) := by
  induction steps generalizing found s with
  | zero =>
    rw [Nat.zero_mul] at h
    exact absurd h (Nat.not_lt_zero _)
  | succ steps ih =>
    rw [partsAfterWithin, partsAfter]
    cases hn : nextPart boundary s with
    | error e => rfl
    | ok next =>
      cases next with
      | none => rfl
      | some step =>
        obtain ⟨p, rest⟩ := step
        have hrest := length_of_nextPart hn
        rw [Nat.succ_mul] at h
        have hless : rest.length < steps * overhead boundary := by omega
        exact ih hless

theorem partsWithin_eq {steps : Nat} {body : Bytes} (h : body.length ≤ steps) :
    partsWithin boundary steps body = some (parts boundary body) := by
  unfold partsWithin parts
  cases hb : Bytes.breakOn? (dashBoundary boundary) body with
  | none => rfl
  | some pieces =>
    obtain ⟨preamble, rest⟩ := pieces
    have hlength := congrArg List.length (Bytes.breakOn?_eq_some hb)
    rw [List.length_append, List.length_append, length_dashBoundary] at hlength
    have hsteps : steps ≤ steps * overhead boundary :=
      Nat.le_mul_of_pos_right steps (Nat.succ_pos _)
    have hrest : rest.length < steps * overhead boundary := by omega
    exact partsAfterWithin_eq hrest

/-- **The parts of a body** and their contents are bounded by its length. -/
theorem length_of_parts {body : Bytes} {ps : List Part} (h : parts boundary body = .ok ps) :
    ps.length * overhead boundary + boundary.length + 4 + (ps.flatMap Part.content).length ≤
      body.length := by
  obtain ⟨preamble, stream, epilogue, -, hstream, rfl⟩ := parts_eq_ok_iff.1 h
  have hlength := hstream.length_le
  simp only [List.length_append, length_dashBoundary]
  omega

/-- **A stream is read with progress at every step.**  A step that reads a part, with a name or
without, takes its content, the boundary and ten bytes more.  So a body is read in no more steps
than it has bytes, whatever it holds; and the parts of a body that is read take up no more than it,
with the first delimiter and the hyphens behind the last one on top.  A form has no more fields than
its body has parts. -/
theorem steps_and_parts_bounded (boundary : String) (body : Bytes) :
    let b := Bytes.ofString boundary
    (∀ s rest p, nextPart b s = .ok (some (p, rest)) →
        rest.length + (b.length + 10) + p.content.length ≤ s.length) ∧
      (∀ steps, body.length ≤ steps → partsWithin b steps body = some (parts b body)) ∧
      (∀ ps, parts b body = .ok ps →
        ps.length * (b.length + 10) + b.length + 4 + (ps.flatMap Part.content).length ≤
          body.length) ∧
      ∀ contentType keepBlank form, ContentType.essence contentType = "multipart/form-data" →
        ContentType.boundary contentType = .ok boundary →
        Form.ofBody contentType keepBlank body = .ok form →
        ∃ ps, parts b body = .ok ps ∧ form.size ≤ (ps.filterMap Part.field?).length ∧
          (ps.filterMap Part.field?).length ≤ ps.length := by
  intro b
  refine ⟨fun s rest p h => length_of_nextPart h, fun steps h => partsWithin_eq h,
    fun ps h => length_of_parts h, fun contentType keepBlank form hct hb h => ?_⟩
  have hencoding := ContentType.encoding_eq_multipart_iff.2 hct
  obtain ⟨l, hl, rfl⟩ := Form.ofBody_eq_ok_iff.1 h
  obtain ⟨boundary', ps, hb', hps, rfl⟩ := Form.exists_parts_of_fieldsOfBody hencoding hl
  obtain rfl : boundary = boundary' := Except.ok.inj (hb.symm.trans hb')
  exact ⟨ps, hps, Form.size_ofList_le _, List.length_filterMap_le _ _⟩

/-- With an empty boundary, the bound on the parts of a body is reached. -/
example : partsWithin [] 14 (Bytes.ofString "--\r\n\r\n\r\n\r\n----") =
    some (.ok [⟨none, false, []⟩]) := by decide +kernel

end FormReply.Multipart
