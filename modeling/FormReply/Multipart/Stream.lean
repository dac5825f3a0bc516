import FormReply.Multipart.Part
import FormReply.Text.Quoted

/-!
# Multipart streams

A multipart body is a preamble, parts and an epilogue.  The first `--` with the boundary ends the
preamble wherever it stands; from there on a delimiter is a line end, `--` and the boundary.
Behind a delimiter, `--` closes the stream; otherwise blanks and a line end open a part.

* `nextPart`: reads one part, and leaves less than it was given (`length_lt_of_nextPart`);
* `parts`: all parts of a body, or the first fault.
-/

namespace FormReply.Multipart

/-- Why a body is not a multipart stream. -/
inductive StreamError where
  /-- The body ends, or goes astray, outside the content of a part. -/
  | incomplete
  | headers
  /-- The name of a header is too long. -/
  | headerName (name : Bytes)
  /-- The body ends within the content of a part with this name. -/
  | incompleteField (name : Option String)
deriving DecidableEq, Repr

/-- The wording of the fault. -/
def StreamError.message : StreamError → String
  | .incomplete => "incomplete multipart stream"
  | .headers => "failed to read headers"
  | .headerName name =>
    "failed to decode field's raw header name: " ++
      Text.quoted (String.ofList (Utf8.decodeLossy name))
  | .incompleteField name =>
    "field " ++ Text.quoted (name.getD "<unknown>") ++ " received with incomplete data"

/-- The greatest length of a header's name. -/
def maxHeaderName : Nat := 65535

/-- Two hyphens and the boundary. -/
def dashBoundary (boundary : Bytes) : Bytes := 0x2D :: 0x2D :: boundary

/-- What ends the content of a part: a line end, two hyphens and the boundary. -/
def delimiter (boundary : Bytes) : Bytes := Bytes.crlf ++ dashBoundary boundary

/-- The empty line that ends the headers of a part, with the line end before it. -/
def headersEnd : Bytes := Bytes.crlf ++ Bytes.crlf

/-- The headers of a part. -/
def readHeaders (block : Bytes) : Except StreamError (List Header) :=
  match Header.parse? block with
  | none => .error .headers
  | some headers =>
    match headers.find? fun h => maxHeaderName < h.name.length with
    | some h => .error (.headerName h.name)
    | none => .ok headers

/-- What stands behind a delimiter. -/
inductive Opening where
  | closed
  /-- A part begins; its headers and all that follows. -/
  | part (rest : Bytes)
  | astray
deriving DecidableEq, Repr

/-- Reads what stands behind a delimiter. -/
def opening (s : Bytes) : Opening :=
  match s with
  | 0x2D :: 0x2D :: _ => .closed
  | s =>
    match s.dropWhile Header.isBlankByte with
    | 13 :: 10 :: rest => .part rest
    | _ => .astray

/-- Reads the part behind a delimiter, up to and with the next delimiter, and gives the rest.
There is no part if the stream is closed. -/
def nextPart (boundary s : Bytes) : Except StreamError (Option (Part × Bytes)) :=
  match opening s with
  | .closed => .ok none
  | .astray => .error .incomplete
  | .part rest =>
    match Bytes.breakOn? headersEnd rest with
    | none => .error .incomplete
    | some (block, body) =>
      match readHeaders (block ++ headersEnd) with
      | .error e => .error e
      | .ok headers =>
        match Bytes.breakOn? (delimiter boundary) body with
        | none => .error (.incompleteField (Part.ofHeaders headers []).name)
        | some (content, rest) => .ok (some (Part.ofHeaders headers content, rest))

theorem headersEnd_ne_nil : headersEnd ≠ [] := by decide

theorem delimiter_ne_nil (boundary : Bytes) : delimiter boundary ≠ [] := by
  simp [delimiter, Bytes.crlf]

theorem length_lt_of_opening {s rest : Bytes} (h : opening s = .part rest) :
    rest.length < s.length := by
  unfold opening at h
  split at h
  · simp at h
  · have hle := (List.dropWhile_sublist Header.isBlankByte (l := s)).length_le
    split at h
    · next hd =>
      simp only [Opening.part.injEq] at h
      subst h
      rw [hd] at hle
      simp at hle; omega
    · simp at h

/-- Reading a part leaves less than it was given. -/
theorem length_lt_of_nextPart {boundary s rest : Bytes} {p : Part}
    (h : nextPart boundary s = .ok (some (p, rest))) : rest.length < s.length := by
  unfold nextPart at h
  split at h
  · simp at h
  · simp at h
  · next body ho =>
    have h₁ := length_lt_of_opening ho
    split at h
    · simp at h
    · next hb =>
      have h₂ := Bytes.length_lt_of_breakOn? headersEnd_ne_nil hb
      split at h
      · simp at h
      · split at h
        · simp at h
        · next hd =>
          have h₃ := Bytes.length_lt_of_breakOn? (delimiter_ne_nil boundary) hd
          simp only [Except.ok.injEq, Option.some.injEq, Prod.mk.injEq] at h
          obtain ⟨-, rfl⟩ := h
          omega

/-- The parts behind a delimiter, after those in `found`, last one first. -/
def partsAfter (boundary : Bytes) (found : List Part) (s : Bytes) :
    Except StreamError (List Part) :=
  match _h : nextPart boundary s with
  | .error e => .error e
  | .ok none => .ok found.reverse
  | .ok (some (p, rest)) => partsAfter boundary (p :: found) rest
termination_by s.length
decreasing_by exact length_lt_of_nextPart _h

/-- The parts of a body. -/
def parts (boundary body : Bytes) : Except StreamError (List Part) :=
  match Bytes.breakOn? (dashBoundary boundary) body with
  | none => .error .incomplete
  | some (_, rest) => partsAfter boundary [] rest

end FormReply.Multipart
