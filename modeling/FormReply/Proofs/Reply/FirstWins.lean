import FormReply.Proofs.Form.Merge
import FormReply.Proofs.Json.RoundTrip
import FormReply.Proofs.Reply.Body

/-!
# The first of several fields

The answer to a request that posts a form shows one field of each name: the first one among all that
are sent, with the body that is meant and with the query string.

* `body_of_outcome_stamp`, `body_post`: the lines of the answer;
* `handle_post_first_wins`: **the answer** to a `POST`, read back from the written object.
-/

namespace FormReply.Reply

/-- What is answered, up to the header for the time it took. -/
theorem body_of_outcome_stamp {settings : Settings} {elapsed : Nat} {reply : Reply}
    {response : Response} (h : (reply.stamp settings elapsed).outcome = .ok response) :
    ∃ r, reply.outcome = .ok r ∧ response.body = r.body := by
  unfold stamp at h
  split at h
  · obtain ⟨r, hr, rfl⟩ := map_eq_ok_iff.1 h
    exact ⟨r, hr, Response.body_addHeader ..⟩
  · exact ⟨response, h, rfl⟩

theorem body_post (form : Form) :
    ((methodResponse post).addLine (dataLine form)).body =
      Bytes.ofString "Request Method: POST\nPOST DATA: " ++ form.write ++ [10] := by
  rw [Response.body_addLine, dataLine, ← List.append_assoc]
  congr 2

/-- **The first of several fields counts.**  If a request that posts a form is answered, then its
body is the one that is meant, and taken from the front of the stream.  The answer is two lines, and
the second one holds an object that is read back as the first occurrences among all fields that are
sent, in their order: as `null` without a value, and as the text of the value otherwise. -/
theorem handle_post_first_wins {settings : Settings} {env : Environment}
    (hmethod : env Request.methodVariable = some (Bytes.ofString post)) {elapsed : Nat}
    {input : Input} {response : Response}
    (h : (handle settings env elapsed input).outcome = .ok response) :
    ∃ body submitted json members,
      body = sentBody (announcedLength env) input ∧
      input.pending = body ++ (handle settings env elapsed input).rest.pending ∧
      IsSubmitted settings (Request.readLossy env "CONTENT_TYPE")
        (Request.readLossy env "QUERY_STRING") body submitted ∧
      response.body = Bytes.ofString "Request Method: POST\nPOST DATA: " ++ json ++ [10] ∧
      Json.read? json = some (.obj members) ∧
      members = (firstOccurrences submitted).map (fun x => (x.name, x.value.elim .null .str)) ∧
      (members.map (·.1)).Nodup ∧
      ∀ name, name ∈ members.map (·.1) ↔ name ∈ submitted.map (·.name) := by
  rw [handle_of_post hmethod] at h ⊢
  rw [rest_stamp]
  obtain ⟨r, hr, hbody⟩ := body_of_outcome_stamp h
  obtain ⟨body, form, hread, hform, rfl⟩ := outcome_respondPost_iff.1 hr
  obtain ⟨submitted, hsubmitted, rfl⟩ := postedForm_eq_ok_iff.1 hform
  rw [contentLength_postRequest] at hread
  have hsent := readBody_eq_ok_iff.1 (congrArg Prod.fst hread)
  have hnames : ((firstOccurrences submitted).map fun x =>
      (x.name, x.value.elim Json.Value.null .str)).map (·.1) =
        (firstOccurrences submitted).map (·.name) := by
    rw [List.map_map]
    rfl
  refine ⟨body, submitted, (Form.ofList submitted).write, _, hsent.2, pending_of_readBody hread,
    hsubmitted, hbody.trans (body_post _), ?_, rfl, ?_, fun name => ?_⟩
  · rw [Form.write, Json.read?_write, Form.toJson, Form.fields_ofList]
    rfl
  · rw [hnames]
    exact nodup_firstOccurrences submitted
  · rw [hnames]
    exact mem_firstOccurrences_names

/-- A stream of parts with an announced length, a name that the query string repeats in another
spelling, a file that is no text, and a name that two parts share. -/
theorem handle_post_repeated_names :
    let block := Bytes.ofString "REQUEST_METHOD=POST\x00CONTENT_LENGTH= 167\x00" ++
      Bytes.ofString "CONTENT_TYPE=multipart/form-data; boundary=b\x00" ++
      Bytes.ofString "QUERY_STRING=a=%31&c=+&%61=3&f\x00"
    let env := Environment.ofBlock block
    let sent := Bytes.ofString "--b\r\nContent-Disposition: form-data; name=c\r\n\r\nx\r\n" ++
      Bytes.ofString "--b\r\nContent-Disposition: form-data; name=f; filename=g\r\n\r\n" ++
      0xFF :: Bytes.ofString "\r\n--b\r\nContent-Disposition: form-data; name=f\r\n\r\ny\r\n--b--"
    let input : Input := ⟨sent ++ Bytes.ofString "POST", .failure "lost"⟩
    let response : Response := ⟨.ok, [("Content-type", "application/json")], Bytes.ofString
      "Request Method: POST\nPOST DATA: \x7b\"a\": \"1\", \"c\": \" \", \"f\": null\x7d\n"⟩
    env Request.methodVariable = some (Bytes.ofString post) ∧
      (handle {} env 0 input).outcome = .ok response ∧
      sentBody (announcedLength env) input = sent ∧
      ∃ body submitted json members,
        body = sentBody (announcedLength env) input ∧
        input.pending = body ++ (handle {} env 0 input).rest.pending ∧
        IsSubmitted {} (Request.readLossy env "CONTENT_TYPE")
          (Request.readLossy env "QUERY_STRING") body submitted ∧
        response.body = Bytes.ofString "Request Method: POST\nPOST DATA: " ++ json ++ [10] ∧
        Json.read? json = some (.obj members) ∧
        members = (firstOccurrences submitted).map (fun x => (x.name, x.value.elim .null .str)) ∧
        (members.map (·.1)).Nodup ∧
        ∀ name, name ∈ members.map (·.1) ↔ name ∈ submitted.map (·.name) :=
  ⟨by decide +kernel, by decide +kernel, by decide +kernel,
    handle_post_first_wins (by decide +kernel) (by decide +kernel)⟩

end FormReply.Reply
