import FormReply.Proofs.Form.Body
import FormReply.Proofs.Multipart.Grammar
import Mathlib.Data.Nat.Find

/-!
# Truncated multipart bodies

A stream that is read ends with the delimiter that closes it.  What follows that delimiter does not
matter, and without the whole of it the stream is refused.

* `parts_append_closing`: an accepted body up to its closing delimiter, before any bytes;
* `exists_shortest_prefix`: the shortest beginning of a body that is accepted;
* `truncated_refused_and_epilogue_ignored`: **both halves** for the form of a body.
-/

namespace FormReply.Multipart

/-- Two hyphens, the boundary and two hyphens. -/
def closingDelimiter (boundary : Bytes) : Bytes := dashBoundary boundary ++ closing

/-- A closed stream behind its first delimiter ends with the closing delimiter. -/
theorem IsClosedStream.exists_closingDelimiter {boundary s : Bytes} {ps : List Part}
    (h : IsClosedStream boundary ps s) :
    ∃ before, dashBoundary boundary ++ s = before ++ closingDelimiter boundary := by
  induction h with
  | closing => exact ⟨[], rfl⟩
  | part hf _ ih =>
    obtain ⟨before, hb⟩ := ih
    obtain ⟨pad, block, _, content, -, -, -, -, -, rfl⟩ := hf
    refine ⟨dashBoundary boundary ++ (pad ++ Bytes.crlf ++ (block ++ headersEnd ++ content)) ++
      Bytes.crlf ++ before, ?_⟩
    rw [List.append_assoc _ before, ← hb]
    simp [delimiter]

/-- **What follows the closing delimiter** of an accepted body does not matter. -/
theorem parts_append_closing {boundary body : Bytes} {ps : List Part}
    (h : parts boundary body = .ok ps) :
    ∃ before epilogue, body = before ++ closingDelimiter boundary ++ epilogue ∧
      ∀ t, parts boundary (before ++ closingDelimiter boundary ++ t) = .ok ps := by
  obtain ⟨preamble, stream, epilogue, hp, hs, rfl⟩ := parts_eq_ok_iff.1 h
  obtain ⟨before, hb⟩ := hs.exists_closingDelimiter
  have hsplit : ∀ t, preamble ++ before ++ closingDelimiter boundary ++ t =
      preamble ++ dashBoundary boundary ++ (stream ++ t) := by
    intro t
    calc preamble ++ before ++ closingDelimiter boundary ++ t
        = preamble ++ (before ++ closingDelimiter boundary) ++ t := by simp
      _ = preamble ++ (dashBoundary boundary ++ stream) ++ t := by rw [hb]
      _ = preamble ++ dashBoundary boundary ++ (stream ++ t) := by simp
  refine ⟨preamble ++ before, epilogue, (hsplit epilogue).symm, fun t => ?_⟩
  rw [hsplit]
  exact parts_eq_ok_iff.2 ⟨preamble, stream, t, hp, hs, rfl⟩

/-- **The shortest beginning of a body that is accepted** ends with the closing delimiter, and gives
the same parts whatever follows it. -/
theorem exists_shortest_prefix {boundary body : Bytes} {ps : List Part}
    (h : parts boundary body = .ok ps) :
    ∃ n ≤ body.length, closingDelimiter boundary <:+ body.take n ∧
      (∀ m < n, ∃ e, parts boundary (body.take m) = .error e) ∧
      ∀ t, parts boundary (body.take n ++ t) = .ok ps := by
  classical
  have hex : ∃ n, ∃ qs, parts boundary (body.take n) = .ok qs :=
    ⟨body.length, ps, by rw [List.take_length]; exact h⟩
  let n := Nat.find hex
  have hle : n ≤ body.length := Nat.find_min' hex ⟨ps, by rw [List.take_length]; exact h⟩
  have hshort : ∀ m < n, ∃ e, parts boundary (body.take m) = .error e := by
    intro m hm
    cases hr : parts boundary (body.take m) with
    | error e => exact ⟨e, rfl⟩
    | ok qs => exact absurd ⟨qs, hr⟩ (Nat.find_min hex hm)
  obtain ⟨qs, hqs⟩ : ∃ qs, parts boundary (body.take n) = .ok qs := Nat.find_spec hex
  obtain ⟨before, epilogue, hn, hany⟩ := parts_append_closing hqs
  -- A beginning that went on behind the closing delimiter would not be the shortest.
  have hep : epilogue = [] := by
    by_contra hne
    have hpos := List.length_pos_iff.2 hne
    have hlen : (before ++ closingDelimiter boundary).length + epilogue.length = n := by
      rw [← List.length_append, ← hn, List.length_take]
      omega
    have htake : body.take (before ++ closingDelimiter boundary).length =
        before ++ closingDelimiter boundary := by
      have := congrArg (List.take (before ++ closingDelimiter boundary).length) hn
      rwa [List.take_take, Nat.min_eq_left (by omega), List.take_left'] at this
      rfl
    obtain ⟨e, he⟩ := hshort (before ++ closingDelimiter boundary).length (by omega)
    have hok := hany []
    rw [List.append_nil] at hok
    rw [htake, hok] at he
    exact absurd he (by simp)
  rw [hep, List.append_nil] at hn
  have hall : ∀ t, parts boundary (body.take n ++ t) = .ok qs := by rw [hn]; exact hany
  have hqp : qs = ps := by
    have hb := hall (body.drop n)
    rw [List.take_append_drop, h] at hb
    exact (Except.ok.inj hb).symm
  subst hqp
  exact ⟨n, hle, ⟨before, hn.symm⟩, hshort, hall⟩

/-! ### Forms -/

/-- **A truncated body is refused, and the epilogue is ignored.**  An accepted multipart body has a
shortest beginning that is accepted.  It ends with the closing delimiter; every shorter beginning is
refused as multipart data, and it gives the same form whatever follows it. -/
theorem truncated_refused_and_epilogue_ignored {contentType : String}
    (hct : ContentType.essence contentType = "multipart/form-data") (keepBlank : Bool)
    {body : Bytes} {form : Form} (h : Form.ofBody contentType keepBlank body = .ok form) :
    ∃ n ≤ body.length,
      (∃ boundary, ContentType.boundary contentType = .ok boundary ∧
        closingDelimiter (Bytes.ofString boundary) <:+ body.take n) ∧
      (∀ m < n, ∃ e, Form.ofBody contentType keepBlank (body.take m) = .error (.multipart e)) ∧
      ∀ t, Form.ofBody contentType keepBlank (body.take n ++ t) = .ok form := by
  have he := ContentType.encoding_eq_multipart_iff.2 hct
  obtain ⟨l, hl, rfl⟩ := Form.ofBody_eq_ok_iff.1 h
  obtain ⟨boundary, ps, hb, hps, rfl⟩ := Form.exists_parts_of_fieldsOfBody he hl
  obtain ⟨n, hn, hend, hshort, hany⟩ := exists_shortest_prefix hps
  refine ⟨n, hn, ⟨boundary, hb, hend⟩, fun m hm => ?_, fun t => ?_⟩
  · obtain ⟨e, hm⟩ := hshort m hm
    exact ⟨.stream e, Form.ofBody_eq_error (Form.fieldsOfBody_of_parts_error he keepBlank hb hm)⟩
  · exact Form.ofBody_eq_ok_iff.2 ⟨_, Form.fieldsOfBody_of_parts he keepBlank hb (hany t), rfl⟩

/-- A body with a preamble that touches the first delimiter, blanks behind it, an unnamed part and
an epilogue. -/
theorem truncated_refused_of_skipped_part :
    let contentType := "Multipart/Form-Data; boundary=b"
    let body := Bytes.ofString "x--b \t\r\nA:1\r\n\r\n--b\r\n--b\r\n" ++
      Bytes.ofString "Content-Disposition: form-data; name=a\r\n\r\n-\r\n--b--z"
    let form : Form := { fields := [⟨"a", some "-"⟩] }
    ContentType.essence contentType = "multipart/form-data" ∧
      Form.ofBody contentType false body = .ok form ∧
      ∃ n ≤ body.length,
        (∃ boundary, ContentType.boundary contentType = .ok boundary ∧
          closingDelimiter (Bytes.ofString boundary) <:+ body.take n) ∧
        (∀ m < n, ∃ e, Form.ofBody contentType false (body.take m) = .error (.multipart e)) ∧
        ∀ t, Form.ofBody contentType false (body.take n ++ t) = .ok form :=
  ⟨by decide +kernel, by decide +kernel,
    truncated_refused_and_epilogue_ignored (by decide +kernel) false (by decide +kernel)⟩

end FormReply.Multipart
