import FormReply.Proofs.Form.Body
import FormReply.Proofs.Form.Merge
import FormReply.Reply

/-!
# Replies to `POST`

A request that posts a form is answered with one object.  Two lists of fields are put in a row for
it: those of the body and those of the query string, in an order that depends on the media type.

* `IsSubmitted`: the fields that are sent with a body, in the order in which they count;
* `combine_ofList`: where the fields of the query string are put;
* `postedForm_eq_ok_iff`: **the form** that is sent with a body;
* `pending_of_readBody`: the body is taken from the front of the stream;
* `outcome_respondPost_iff`: when a `POST` is answered, and with what.
-/

namespace FormReply

/-! ### The fields of a form -/

/-- The fields of a query string, as far as they count. -/
def queryFields (settings : Settings) (query : String) : List Field :=
  if settings.includeQuery then UrlEncoded.fields settings.keepBlankValues query.toList else []

/-- The fields that are sent with a body, in the order in which they count, repeated names
included.  Those of URL-encoded data come before those of the query string, and the query string
comes before the named parts of a stream. -/
inductive IsSubmitted (settings : Settings) (contentType query : String) (body : Bytes) :
    List Field → Prop
  /-- The body is URL-encoded. -/
  | urlEncoded (h : ContentType.essence contentType = "" ∨
      ContentType.essence contentType = "application/x-www-form-urlencoded") :
    IsSubmitted settings contentType query body
      (UrlEncoded.fields settings.keepBlankValues (Utf8.decodeLossy body) ++
        queryFields settings query)
  /-- The body is a stream of parts. -/
  | multipart (h : ContentType.essence contentType = "multipart/form-data")
      {boundary : String} (hb : ContentType.boundary contentType = .ok boundary)
      {ps : List Multipart.Part} (hps : Multipart.parts (Bytes.ofString boundary) body = .ok ps) :
    IsSubmitted settings contentType query body
      (queryFields settings query ++ ps.filterMap Multipart.Part.field?)

/-- The query string is put before parts, and behind anything else. -/
theorem combine_ofList (settings : Settings) (request : Request) (l : List Field) :
    combine settings request (Form.ofList l) =
      Form.ofList (if ContentType.encoding request.contentType = .multipart
        then queryFields settings request.query ++ l
        else l ++ queryFields settings request.query) := by
  unfold combine queryFields
  by_cases hq : settings.includeQuery = true
  · rw [if_pos hq, if_pos hq]
    by_cases he : ContentType.encoding request.contentType = .multipart
    · have hm : ContentType.isMultipart request.contentType = true := by
        simp [ContentType.isMultipart, he]
      rw [if_pos he, ← Form.merge_ofList]
      exact if_pos hm
    · have hm : ¬ ContentType.isMultipart request.contentType = true := by
        simp [ContentType.isMultipart, he]
      rw [if_neg he, ← Form.merge_ofList]
      exact if_neg hm
  · rw [if_neg hq, if_neg hq, List.nil_append, List.append_nil, ite_self]

/-- **The form** that is sent with a body is collected from all fields that count, in a row. -/
theorem postedForm_eq_ok_iff {settings : Settings} {request : Request} {body : Bytes}
    {form : Form} :
    postedForm settings request body = .ok form ↔
      ∃ submitted, IsSubmitted settings request.contentType request.query body submitted ∧
        form = Form.ofList submitted := by
  have hmap : postedForm settings request body = .ok form ↔
      ∃ l, Form.fieldsOfBody request.contentType settings.keepBlankValues body = .ok l ∧
        form = combine settings request (Form.ofList l) := by
    rw [postedForm, map_eq_ok_iff]
    simp only [Form.ofBody_eq_ok_iff]
    constructor
    · rintro ⟨_, ⟨l, hl, rfl⟩, rfl⟩
      exact ⟨l, hl, rfl⟩
    · rintro ⟨l, hl, rfl⟩
      exact ⟨_, ⟨l, hl, rfl⟩, rfl⟩
  rw [hmap]
  constructor
  · rintro ⟨l, hl, rfl⟩
    cases he : ContentType.encoding request.contentType with
    | urlEncoded =>
      rw [Form.fieldsOfBody_of_urlEncoded he, Except.ok.injEq] at hl
      subst hl
      refine ⟨_, .urlEncoded (ContentType.encoding_eq_urlEncoded_iff.1 he), ?_⟩
      rw [combine_ofList, if_neg (by simp [he])]
    | multipart =>
      obtain ⟨boundary, ps, hb, hps, rfl⟩ := Form.exists_parts_of_fieldsOfBody he hl
      refine ⟨_, .multipart (ContentType.encoding_eq_multipart_iff.1 he) hb hps, ?_⟩
      rw [combine_ofList, if_pos he]
    | unsupported e => simp [Form.fieldsOfBody, he] at hl
  · rintro ⟨submitted, hs, rfl⟩
    cases hs with
    | urlEncoded h =>
      have he := ContentType.encoding_eq_urlEncoded_iff.2 h
      refine ⟨_, Form.fieldsOfBody_of_urlEncoded he _ body, ?_⟩
      rw [combine_ofList, if_neg (by simp [he])]
    | multipart h hb hps =>
      have he := ContentType.encoding_eq_multipart_iff.2 h
      refine ⟨_, Form.fieldsOfBody_of_parts he _ hb hps, ?_⟩
      rw [combine_ofList, if_pos he]

/-! ### The body -/

/-- A read that succeeds takes its bytes from the front of the stream. -/
theorem Input.pending_of_read {i rest : Input} {d : Demand} {b : Bytes}
    (h : i.read d = (.ok b, rest)) : i.pending = b ++ rest.pending := by
  have hall : ∀ {b rest}, Input.read.readAll i = (.ok b, rest) →
      i.pending = b ++ rest.pending := by
    intro b rest h
    unfold Input.read.readAll at h
    split at h
    · obtain ⟨rfl, rfl⟩ : i.pending = b ∧ i.drained = rest := by simpa using h
      simp [Input.drained]
    · simp at h
  unfold Input.read at h
  split at h
  · next n =>
    split at h
    · obtain ⟨rfl, rfl⟩ : i.pending.take n = b ∧ { i with pending := i.pending.drop n } = rest := by
        simpa using h
      exact (List.take_append_drop n i.pending).symm
    · exact hall h
  · exact hall h

/-- A body that is read is taken from the front of the stream. -/
theorem pending_of_readBody {length limit : Option Nat} {input rest : Input} {body : Bytes}
    (h : readBody length limit input = (.ok body, rest)) :
    input.pending = body ++ rest.pending := by
  unfold readBody at h
  split at h
  · simp at h
  · split at h
    · simp at h
    · next hr =>
      split at h
      · simp at h
      · obtain ⟨rfl, rfl⟩ : _ = body ∧ _ = rest := by simpa using h
        exact Input.pending_of_read hr

/-! ### The answer -/

namespace Reply

/-- A `POST` is answered if its body can be read and holds a form. -/
theorem outcome_respondPost_iff {settings : Settings} {request : Request} {input : Input}
    {response : Response} :
    (respondPost settings request input).outcome = .ok response ↔
      ∃ body form,
        readBody request.contentLength settings.bodyLimit input =
          (.ok body, (respondPost settings request input).rest) ∧
        postedForm settings request body = .ok form ∧
        response = (methodResponse post).addLine (dataLine form) := by
  unfold respondPost
  cases hr : readBody request.contentLength settings.bodyLimit input with
  | mk outcome rest =>
    cases outcome with
    | error e => simp
    | ok body =>
      cases hf : postedForm settings request body with
      | error e => simp [hf]
      | ok form => simp [hf, eq_comm]

end Reply

end FormReply
