import FormReply.Proofs.Reply.Post
import FormReply.Proofs.Request.Length
import Mathlib.Control.Monad.Basic
import Mathlib.Logic.Function.Basic

/-!
# The two kinds of requests

A request that posts a form reads a body and answers with what the body holds; any other request is
answered or refused without the stream.

* `handle_of_post`, `handle_of_not_post`: **the answer** to either kind;
* `outcome_respondPost`, `rest_respondPost`: a body is read once, and its form is answered;
* `outcome_handle_of_post`, `outcome_handle_of_not_post`: what is answered without `debug`;
* `Input.exists_taken`: a read takes no more than it is asked for;
* `readBody_of_none`, `readBody_of_error`, `readBody_of_ok`: the ways to read a body.
-/

namespace FormReply

/-! ### Reads -/

/-- A read takes bytes from the front of the stream, and no more than it is asked for. -/
theorem Input.exists_taken (i : Input) (n : Nat) :
    ∃ taken, i.pending = taken ++ (i.read (.upTo n)).2.pending ∧ taken.length ≤ n := by
  obtain ⟨taken, htaken⟩ := i.read_pending (.upTo n)
  refine ⟨taken, htaken, ?_⟩
  by_cases h : n ≤ i.pending.length
  · have hlength := congrArg List.length htaken
    rw [read_of_le h, List.length_append, List.length_drop] at hlength
    omega
  · have hlength := congrArg List.length htaken
    rw [List.length_append] at hlength
    omega

/-! ### Bodies -/

section

variable {length limit : Option Nat} {input rest : Input} {demand : Demand}

theorem readBody_of_none (hd : bodyDemand length limit = none) :
    readBody length limit input = (.error .bodyTooLong, input) := by
  rw [readBody, hd]

theorem readBody_of_error (hd : bodyDemand length limit = some demand) {reason : String}
    (hr : input.read demand = (.error reason, rest)) :
    readBody length limit input = (.error (.read reason), rest) := by
  rw [readBody, hd]
  simp only [hr]

theorem readBody_of_ok (hd : bodyDemand length limit = some demand) {body : Bytes}
    (hr : input.read demand = (.ok body, rest)) :
    readBody length limit input =
      (if limit.any (· < body.length) then .error .bodyTooLong else .ok body, rest) := by
  rw [readBody, hd]
  simp only [hr]
  split <;> rfl

theorem rest_readBody (hd : bodyDemand length limit = some demand) :
    (readBody length limit input).2 = (input.read demand).2 := by
  cases hr : input.read demand with
  | mk outcome rest =>
    cases outcome with
    | error reason => rw [readBody_of_error hd hr]
    | ok body => rw [readBody_of_ok hd hr]

end

namespace Reply

/-! ### Posted forms -/

/-- The environment describes a request that posts a form. -/
def IsPost (env : Environment) : Prop :=
  env Request.methodVariable = some (Bytes.ofString post)

instance (env : Environment) : Decidable (IsPost env) := inferInstanceAs (Decidable (_ = _))

/-- The length that an environment announces, if it is usable. -/
def announcedLength (env : Environment) : Option Nat :=
  Request.readLength? (Request.readLossy env "CONTENT_LENGTH")

/-- **The numeral of a length** announces it, with any blanks around it. -/
theorem announcedLength_of_pad {n : Nat} (hn : n < 2 ^ 32) {left right : String}
    (hl : ∀ c ∈ left.toList, Text.isBlank c) (hr : ∀ c ∈ right.toList, Text.isBlank c)
    {env : Environment}
    (h : env "CONTENT_LENGTH" = some (Bytes.ofString (left ++ toString n ++ right))) :
    announcedLength env = some n := by
  rw [announcedLength, Request.readLossy_of_ofString h, Request.readLength?_pad hn hl hr]

/-- The request of an environment that posts a form. -/
def postRequest (env : Environment) : Request :=
  { method := some post
    contentType := Request.readLossy env "CONTENT_TYPE"
    contentLength := announcedLength env
    query := Request.readLossy env "QUERY_STRING" }

theorem contentType_postRequest (env : Environment) :
    (postRequest env).contentType = Request.readLossy env "CONTENT_TYPE" := by rw [postRequest]

theorem contentLength_postRequest (env : Environment) :
    (postRequest env).contentLength = announcedLength env := by rw [postRequest]

/-- What is answered to a request with a body. -/
def bodyOutcome (settings : Settings) (request : Request) (body : Bytes) :
    Except Refusal Response :=
  match postedForm settings request body with
  | .error e => .error (.form e)
  | .ok form => .ok ((methodResponse post).addLine (dataLine form))

/-- The length and the method have no part in what is answered to a body, nor have the limit and
`debug`. -/
theorem bodyOutcome_congr {settings settings' : Settings} {request request' : Request}
    (hkeep : settings.keepBlankValues = settings'.keepBlankValues)
    (hinclude : settings.includeQuery = settings'.includeQuery)
    (hc : request.contentType = request'.contentType) (hq : request.query = request'.query) :
    bodyOutcome settings request = bodyOutcome settings' request' := by
  have hcombine : combine settings request = combine settings' request' := by
    funext form
    rw [combine, combine, hkeep, hinclude, hc, hq]
  funext body
  rw [bodyOutcome, bodyOutcome, postedForm, postedForm, hcombine, hkeep, hc]

theorem bodyOutcome_of_ok {settings : Settings} {request : Request} {body : Bytes} {form : Form}
    (h : postedForm settings request body = .ok form) :
    bodyOutcome settings request body = .ok ((methodResponse post).addLine (dataLine form)) := by
  rw [bodyOutcome, h]

theorem isPost_update {env : Environment} {name : String} (hname : name ≠ Request.methodVariable)
    (value : Option Bytes) : IsPost (Function.update env name value) ↔ IsPost env := by
  rw [IsPost, Function.update_of_ne hname.symm, IsPost]

theorem readLossy_update_of_ne (env : Environment) {name other : String} (h : other ≠ name)
    (value : Option Bytes) :
    Request.readLossy (Function.update env name value) other = Request.readLossy env other := by
  rw [Request.readLossy, Function.update_of_ne h, Request.readLossy]

theorem ofEnvironment_of_post {env : Environment} (h : IsPost env) :
    Request.ofEnvironment env = .ok (postRequest env) := by
  have hm : Request.readMethod (Bytes.ofString post) = .ok post :=
    Request.readMethod_eq_ok_iff.2 ⟨rfl, by decide⟩
  rw [Request.ofEnvironment_of_some h, hm, postRequest, announcedLength]
  rfl

theorem handle_of_post {env : Environment} (h : IsPost env) (settings : Settings) (elapsed : Nat)
    (input : Input) :
    handle settings env elapsed input =
      (respondPost settings (postRequest env) input).stamp settings elapsed := by
  have hrespond : respond settings (postRequest env) input =
      respondPost settings (postRequest env) input := by
    rw [respond]
    exact if_pos rfl
  rw [handle, ofEnvironment_of_post h]
  simp only [hrespond]

/-- A body is read once, and then answered. -/
theorem outcome_respondPost (settings : Settings) (request : Request) (input : Input) :
    (respondPost settings request input).outcome =
      (readBody request.contentLength settings.bodyLimit input).1.bind
        (bodyOutcome settings request) := by
  unfold respondPost
  cases readBody request.contentLength settings.bodyLimit input with
  | mk outcome rest =>
    cases outcome with
    | error e => rfl
    | ok body =>
      cases hform : postedForm settings request body with
      | error e => simp only [Except.bind, bodyOutcome, hform]
      | ok form => simp only [Except.bind, bodyOutcome, hform]

/-- A posted form is answered from what is read of its body. -/
theorem outcome_handle_of_post {env : Environment} (h : IsPost env) {settings : Settings}
    (hdebug : settings.debug = false) (elapsed : Nat) (input : Input) :
    (handle settings env elapsed input).outcome =
      (readBody (announcedLength env) settings.bodyLimit input).1.bind
        (bodyOutcome settings (postRequest env)) := by
  rw [handle_of_post h, stamp_of_not_debug hdebug, outcome_respondPost, contentLength_postRequest]

theorem rest_respondPost (settings : Settings) (request : Request) (input : Input) :
    (respondPost settings request input).rest =
      (readBody request.contentLength settings.bodyLimit input).2 := by
  unfold respondPost
  cases readBody request.contentLength settings.bodyLimit input with
  | mk outcome rest => cases outcome <;> rfl

/-! ### Other requests -/

/-- What is answered to a request that posts nothing. -/
def plainOutcome (env : Environment) : Except Refusal Response :=
  match Request.ofEnvironment env with
  | .error fault => .error (.method fault)
  | .ok request =>
    match request.method with
    | none => .error .missingMethod
    | some method => .ok (methodResponse method)

theorem stamp_of_error {reply : Reply} {e : Refusal} (h : reply.outcome = .error e)
    (settings : Settings) (elapsed : Nat) : reply.stamp settings elapsed = reply := by
  unfold stamp
  split
  · rw [h, Except.map, ← h]
  · rfl

/-- **A request that posts nothing** is answered without the stream. -/
theorem handle_of_not_post {env : Environment} (h : ¬ IsPost env) (settings : Settings)
    (elapsed : Nat) (input : Input) :
    ∃ log, handle settings env elapsed input =
      (⟨log, plainOutcome env, input⟩ : Reply).stamp settings elapsed := by
  unfold handle plainOutcome
  cases hr : Request.ofEnvironment env with
  | error fault => exact ⟨[], (stamp_of_error rfl settings elapsed).symm⟩
  | ok request =>
    cases hm : request.method with
    | none => exact ⟨[], by simp only [respond, hm]⟩
    | some method =>
      have hne : method ≠ post := by
        rintro rfl
        exact h (Request.method_of_ofEnvironment hr hm)
      exact ⟨methodLog settings method, by simp only [respond, hm, if_neg hne]⟩

theorem outcome_handle_of_not_post {env : Environment} (h : ¬ IsPost env) {settings : Settings}
    (hdebug : settings.debug = false) (elapsed : Nat) (input : Input) :
    (handle settings env elapsed input).outcome = plainOutcome env := by
  obtain ⟨log, hhandle⟩ := handle_of_not_post h settings elapsed input
  rw [hhandle, stamp_of_not_debug hdebug]

/-- What is answered to a request that posts nothing is up to its method. -/
theorem plainOutcome_congr {env env' : Environment}
    (h : env' Request.methodVariable = env Request.methodVariable) :
    plainOutcome env' = plainOutcome env := by
  cases hb : env Request.methodVariable with
  | none =>
    rw [plainOutcome, plainOutcome, Request.ofEnvironment_of_none hb,
      Request.ofEnvironment_of_none (h.trans hb)]
  | some b =>
    rw [plainOutcome, plainOutcome, Request.ofEnvironment_of_some hb,
      Request.ofEnvironment_of_some (h.trans hb)]
    cases Request.readMethod b with
    | error fault => rfl
    | ok method => rfl

theorem plainOutcome_eq_ok {env : Environment} {response : Response}
    (h : plainOutcome env = .ok response) :
    ∃ method, env Request.methodVariable = some (Bytes.ofString method) ∧
      response = methodResponse method := by
  unfold plainOutcome at h
  cases hr : Request.ofEnvironment env with
  | error fault => simp [hr] at h
  | ok request =>
    cases hm : request.method with
    | none => simp [hr, hm] at h
    | some method =>
      simp only [hr, hm, Except.ok.injEq] at h
      exact ⟨method, Request.method_of_ofEnvironment hr hm, h.symm⟩

theorem plainOutcome_of_method {env : Environment} {method : String}
    (h : env Request.methodVariable = some (Bytes.ofString method))
    (hle : (Bytes.ofString method).length ≤ Request.maxMethodLength) :
    plainOutcome env = .ok (methodResponse method) := by
  rw [plainOutcome, Request.ofEnvironment_of_some h, Request.readMethod_eq_ok_iff.2 ⟨rfl, hle⟩]
  rfl

/-- A request that posts nothing is refused for its method alone. -/
theorem plainOutcome_ne_error (env : Environment) {e : Refusal}
    (h : plainOutcome env = .error e) : e = .missingMethod ∨ ∃ fault, e = .method fault := by
  unfold plainOutcome at h
  split at h
  · exact Or.inr ⟨_, (Except.error.inj h).symm⟩
  · split at h
    · exact Or.inl (Except.error.inj h).symm
    · simp at h

/-! ### Logs -/

theorem log_respondPost_of_not_debug {settings : Settings} (h : settings.debug = false)
    (request : Request) (input : Input) : (respondPost settings request input).log = [] := by
  unfold respondPost
  split
  · simp [methodLog, h]
  · simp [methodLog, bodyLog, h]

/-- Without `debug`, nothing is logged. -/
theorem log_handle_of_not_debug {settings : Settings} (h : settings.debug = false)
    (env : Environment) (elapsed : Nat) (input : Input) :
    (handle settings env elapsed input).log = [] := by
  unfold handle
  split
  · rfl
  · rw [log_stamp, respond]
    split
    · rfl
    · split
      · exact log_respondPost_of_not_debug h _ _
      · simp [methodLog, h]

end Reply

end FormReply
