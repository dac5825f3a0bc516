import FormReply.Proofs.Reply.Cases

/-!
# Query strings behind bodies

A URL-encoded body and a query string are read as if they stood in one body with a `&` between them.
The `&` ends whatever character is open before it, so the two are decoded apart also where they are
ill-formed; and fields that are collected apart and then merged are collected in a row.

* `fields_decodeLossy_append`, `ofBody_append`: **a `&` between two bodies** joins their fields, and
  merges their forms;
* `postedForm_withQuery`: the form that is sent with a URL-encoded body and a query string;
* `query_behind_body`: **a query string** is answered as if it stood in the body.
-/

namespace FormReply

open FormReply.Utf8 (decodeLossy)

/-! ### Bodies -/

theorem UrlEncoded.fields_decodeLossy_append (keepBlank : Bool) (a b : Bytes) :
    fields keepBlank (decodeLossy (a ++ 0x26 :: b)) =
      fields keepBlank (decodeLossy a) ++ fields keepBlank (decodeLossy b) := by
  have hchar : Char.ofNat (0x26 : UInt8).toNat = '&' := by decide
  rw [Utf8.decodeLossy_append_of_ascii a (by decide) b, hchar, fields_append]

/-- **A `&` between two bodies** merges their forms. -/
theorem Form.ofBody_append {contentType : String}
    (h : ContentType.encoding contentType = .urlEncoded) (keepBlank : Bool) (a b : Bytes) :
    ∃ f g, ofBody contentType keepBlank a = .ok f ∧ ofBody contentType keepBlank b = .ok g ∧
      ofBody contentType keepBlank (a ++ 0x26 :: b) = .ok (f.merge g) := by
  have hform : ∀ body, ofBody contentType keepBlank body =
      .ok (ofList (UrlEncoded.fields keepBlank (decodeLossy body))) := by
    intro body
    rw [ofBody, fieldsOfBody_of_urlEncoded h]
    rfl
  refine ⟨_, _, hform a, hform b, ?_⟩
  rw [hform, UrlEncoded.fields_decodeLossy_append, merge_ofList]

/-! ### Posted forms -/

/-- The request with another query string. -/
def Request.withQuery (request : Request) (query : Bytes) : Request :=
  { request with query := String.ofList (decodeLossy query) }

theorem queryFields_withQuery {settings : Settings} (h : settings.includeQuery = true)
    (request : Request) (query : Bytes) :
    queryFields settings (request.withQuery query).query =
      UrlEncoded.fields settings.keepBlankValues (decodeLossy query) := by
  rw [queryFields, if_pos h, Request.withQuery, String.toList_ofList]

/-- The form that is sent with a URL-encoded body and a query string. -/
theorem postedForm_withQuery {settings : Settings} (hquery : settings.includeQuery = true)
    {request : Request} (h : ContentType.encoding request.contentType = .urlEncoded)
    (body query : Bytes) :
    postedForm settings (request.withQuery query) body =
      .ok (Form.ofList (UrlEncoded.fields settings.keepBlankValues (decodeLossy body) ++
        UrlEncoded.fields settings.keepBlankValues (decodeLossy query))) := by
  refine postedForm_eq_ok_iff.2 ⟨_, ?_, rfl⟩
  rw [← queryFields_withQuery hquery request query]
  exact .urlEncoded (ContentType.encoding_eq_urlEncoded_iff.1 h)

namespace Reply

/-! ### Requests -/

/-- What an environment with another query string describes. -/
theorem postRequest_update_query (env : Environment) (value : Option Bytes) :
    postRequest (Function.update env "QUERY_STRING" value) =
      (postRequest env).withQuery (value.getD []) := by
  have hquery : Request.readLossy (Function.update env "QUERY_STRING" value) "QUERY_STRING" =
      String.ofList (decodeLossy (value.getD [])) := by
    rw [Request.readLossy, Function.update_self]
  rw [postRequest, postRequest, announcedLength, announcedLength, hquery,
    readLossy_update_of_ne env (by decide), readLossy_update_of_ne env (by decide),
    Request.withQuery]

/-- Without a usable length and a limit, the whole stream is the body. -/
theorem readBody_whole (body : Bytes) (ending : Ending) :
    (readBody none none ⟨body, ending⟩).1 =
      match ending with
      | .done => .ok body
      | .failure reason => .error (.read reason) := by
  cases ending with
  | done => rfl
  | failure reason => rfl

/-- What is answered to a URL-encoded body of unknown length and a query string. -/
theorem outcome_handle_query {settings : Settings} {env : Environment} (hpost : IsPost env)
    (htype : ContentType.encoding (postRequest env).contentType = .urlEncoded)
    (hlength : announcedLength env = none) (hlimit : settings.bodyLimit = none)
    (hdebug : settings.debug = false) (hquery : settings.includeQuery = true)
    (value : Option Bytes) (elapsed : Nat) (body : Bytes) (ending : Ending) :
    (handle settings (Function.update env "QUERY_STRING" value) elapsed ⟨body, ending⟩).outcome =
      match ending with
      | .done => .ok ((methodResponse post).addLine (dataLine (Form.ofList
          (UrlEncoded.fields settings.keepBlankValues (decodeLossy body) ++
            UrlEncoded.fields settings.keepBlankValues (decodeLossy (value.getD []))))))
      | .failure reason => .error (.read reason) := by
  have hname : "QUERY_STRING" ≠ Request.methodVariable := by decide
  have hpost' := (isPost_update hname value).2 hpost
  have hlength' : announcedLength (Function.update env "QUERY_STRING" value) = none := by
    rw [announcedLength, readLossy_update_of_ne env (by decide), ← announcedLength, hlength]
  rw [outcome_handle_of_post hpost' hdebug, hlength', hlimit, readBody_whole,
    postRequest_update_query]
  cases ending with
  | done =>
    dsimp only [Except.bind]
    rw [bodyOutcome_of_ok (postedForm_withQuery hquery htype body (value.getD []))]
  | failure reason => rfl

/-- **A query string stands behind the body.**  A `&` between two URL-encoded bodies merges their
forms, whatever their bytes are.  So without a usable length, without a limit and without `debug`, a
body is answered with a query string as it is answered with a `&` and the query string behind it,
and no query string; and unless the stream fails, there is an answer. -/
theorem query_behind_body {contentType : String}
    (h : ContentType.essence contentType = "" ∨
      ContentType.essence contentType = "application/x-www-form-urlencoded") (b q : Bytes) :
    (∀ keepBlank, ∃ f g, Form.ofBody contentType keepBlank b = .ok f ∧
      Form.ofBody contentType keepBlank q = .ok g ∧
      Form.ofBody contentType keepBlank (b ++ 0x26 :: q) = .ok (f.merge g)) ∧
    ∀ (settings : Settings) (env : Environment), IsPost env →
      Request.readLossy env "CONTENT_TYPE" = contentType → announcedLength env = none →
      settings.bodyLimit = none → settings.debug = false → settings.includeQuery = true →
      ∀ elapsed elapsed' ending,
        let apart := handle settings (Function.update env "QUERY_STRING" (some q)) elapsed
          ⟨b, ending⟩
        let joined := handle settings (Function.update env "QUERY_STRING" none) elapsed'
          ⟨b ++ 0x26 :: q, ending⟩
        apart.outcome = joined.outcome ∧
          (ending = .done → ∃ response, apart.outcome = .ok response) := by
  have he := ContentType.encoding_eq_urlEncoded_iff.2 h
  refine ⟨fun keepBlank => Form.ofBody_append he keepBlank b q, ?_⟩
  rintro settings env hpost htype hlength hlimit hdebug hquery elapsed elapsed' ending apart joined
  have htype' : ContentType.encoding (postRequest env).contentType = .urlEncoded := by
    rw [postRequest, htype, he]
  have houtcome := outcome_handle_query hpost htype' hlength hlimit hdebug hquery
  have hnil : UrlEncoded.fields settings.keepBlankValues (decodeLossy []) = [] :=
    UrlEncoded.fields_nil _
  have hsame : apart.outcome = joined.outcome := by
    show (handle _ _ _ _).outcome = (handle _ _ _ _).outcome
    rw [houtcome, houtcome, Option.getD_some, Option.getD_none, hnil, List.append_nil,
      UrlEncoded.fields_decodeLossy_append]
  refine ⟨hsame, ?_⟩
  rintro rfl
  exact ⟨_, houtcome (some q) elapsed b .done⟩

/-- A character that is cut short at the end of the body, with its last byte at the start of the
query string: both make a replacement character of their own. -/
theorem query_behind_cut_body :
    let contentType := " Application/X-WWW-Form-URLencoded;a"
    let b : Bytes := Bytes.ofString "x=1&a=" ++ [0xE2, 0x82]
    let q : Bytes := [0xAC] ++ Bytes.ofString "=2&x=3&%"
    let env := Environment.ofBlock
      (Bytes.ofString ("REQUEST_METHOD=POST\x00CONTENT_TYPE=" ++ contentType ++ "\x00"))
    let settings : Settings := { keepBlankValues := true }
    let response : Response := ⟨.ok, [("Content-type", "application/json")], Bytes.ofString
      ("Request Method: POST\nPOST DATA: " ++
        "\x7b\"x\": \"1\", \"a\": \"\\ufffd\", \"\\ufffd\": \"2\", \"%\": \"\"\x7d\n")⟩
    let apart := handle settings (Function.update env "QUERY_STRING" (some q)) 0 ⟨b, .done⟩
    let joined := handle settings (Function.update env "QUERY_STRING" none) 1
      ⟨b ++ 0x26 :: q, .done⟩
    (ContentType.essence contentType = "" ∨
        ContentType.essence contentType = "application/x-www-form-urlencoded") ∧
      (∀ keepBlank, ∃ f g, Form.ofBody contentType keepBlank b = .ok f ∧
        Form.ofBody contentType keepBlank q = .ok g ∧
        Form.ofBody contentType keepBlank (b ++ 0x26 :: q) = .ok (f.merge g)) ∧
      apart.outcome = .ok response ∧ joined.outcome = .ok response := by
  intro contentType b q env settings response apart joined
  have hessence : ContentType.essence contentType = "" ∨
      ContentType.essence contentType = "application/x-www-form-urlencoded" :=
    Or.inr (by decide +kernel)
  obtain ⟨hforms, hrequests⟩ := query_behind_body hessence b q
  have hsame : apart.outcome = joined.outcome :=
    (hrequests settings env (by decide +kernel) (by decide +kernel) (by decide +kernel) rfl rfl rfl
      0 1 .done).1
  have hresponse : apart.outcome = .ok response := by decide +kernel
  exact ⟨hessence, hforms, hresponse, hsame ▸ hresponse⟩

end Reply

end FormReply
