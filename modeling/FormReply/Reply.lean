import FormReply.Form.Body
import FormReply.Form.Json
import FormReply.Input
import FormReply.Request
import FormReply.Response

/-!
# Replies

A request is answered from its environment, the settings and an input stream.  The stream is read
for the method `POST` alone, and no further than the announced length or the limit allows.

* `bodyDemand`: how much of the stream a body takes;
* `Reply.respond`: the answer to a request, with the log and the rest of the stream;
* `Reply.stamp`: with `debug`, the header that tells how long the answer took;
* `Reply.handle`: all of this for an environment.
-/

namespace FormReply

/-- Why a request is not answered. -/
inductive Refusal where
  | missingMethod
  /-- The method is not usable. -/
  | method (fault : MethodFault)
  | bodyTooLong
  | form (e : FormError)
  | read (reason : String)
deriving DecidableEq, Repr

/-- The wording of a refusal. -/
def Refusal.message : Refusal → String
  | .missingMethod => "Environment variable '" ++ Request.methodVariable ++ "' is not set."
  | .method fault =>
    "Environment variable '" ++ Request.methodVariable ++ "' " ++ fault.message ++ "."
  | .bodyTooLong => "POST body: Maximum content length exceeded."
  | .form e => "POST body: " ++ e.message
  | .read reason => "POST body read failed: " ++ reason

/-- The wording of what led to a refusal, where that is told on its own. -/
def Refusal.cause? : Refusal → Option String
  | .read reason => some reason
  | _ => none

/-! ### Bodies -/

/-- How much of the stream a body takes, given its announced length and the limit; nothing is taken
if the announced length exceeds the limit.  Without a length, one byte beyond the limit shows that
the body is too long. -/
def bodyDemand (length limit : Option Nat) : Option Demand :=
  match length, limit with
  | some n, some m => if m < n then none else some (.upTo n)
  | some n, none => some (.upTo n)
  | none, some m => some (.upTo (m + 1))
  | none, none => some .all

/-- Reads a body, and gives the rest of the stream. -/
def readBody (length limit : Option Nat) (input : Input) : Except Refusal Bytes × Input :=
  match bodyDemand length limit with
  | none => (.error .bodyTooLong, input)
  | some demand =>
    match input.read demand with
    | (.error reason, rest) => (.error (.read reason), rest)
    | (.ok body, rest) =>
      if limit.any (· < body.length) then (.error .bodyTooLong, rest) else (.ok body, rest)

/-- The form of a body together with the fields of the query string, which follow the fields of
URL-encoded data and precede parts. -/
def combine (settings : Settings) (request : Request) (form : Form) : Form :=
  if settings.includeQuery then
    let query := Form.ofQuery settings.keepBlankValues request.query
    if ContentType.isMultipart request.contentType then query.merge form else form.merge query
  else form

/-- The form that is sent with a body. -/
def postedForm (settings : Settings) (request : Request) (body : Bytes) : Except FormError Form :=
  (Form.ofBody request.contentType settings.keepBlankValues body).map (combine settings request)

/-! ### Answers -/

/-- What becomes of a request. -/
structure Reply where
  /-- The lines of the log. -/
  log : List String
  /-- The response, or why there is none. -/
  outcome : Except Refusal Response
  /-- The rest of the stream. -/
  rest : Input

namespace Reply

/-- The method whose body is read. -/
def post : String := "POST"

/-- The header that tells how long an answer took. -/
def runtimeHeader : String := "X-Echo-Cgi-Runtime"

/-- The response to a method, without the data of a body. -/
def methodResponse (method : String) : Response :=
  (Response.addHeader {} "Content-type" "application/json").addLine
    (Bytes.ofString ("Request Method: " ++ method))

/-- The line with the data of a form. -/
def dataLine (form : Form) : Bytes := Bytes.ofString "POST DATA: " ++ form.write

/-- The lines that are logged for a method. -/
def methodLog (settings : Settings) (method : String) : List String :=
  if settings.debug then ["REQUEST_METHOD: '" ++ method ++ "'"] else []

/-- The lines that are logged for a body. -/
def bodyLog (settings : Settings) (body : Bytes) : List String :=
  if settings.debug then ["POST body: " ++ toString body.length ++ " bytes"] else []

/-- Answers a request with a body. -/
def respondPost (settings : Settings) (request : Request) (input : Input) : Reply :=
  let log := methodLog settings post
  match readBody request.contentLength settings.bodyLimit input with
  | (.error e, rest) => ⟨log, .error e, rest⟩
  | (.ok body, rest) =>
    let outcome :=
      match postedForm settings request body with
      | .error e => .error (.form e)
      | .ok form => .ok ((methodResponse post).addLine (dataLine form))
    ⟨log ++ bodyLog settings body, outcome, rest⟩

/-- Answers a request. -/
def respond (settings : Settings) (request : Request) (input : Input) : Reply :=
  match request.method with
  | none => ⟨[], .error .missingMethod, input⟩
  | some method =>
    if method = post then respondPost settings request input
    else ⟨methodLog settings method, .ok (methodResponse method), input⟩

/-- With `debug`, adds the header that tells how long the answer took in microseconds. -/
def stamp (settings : Settings) (elapsed : Nat) (reply : Reply) : Reply :=
  if settings.debug then
    { reply with
      outcome := reply.outcome.map fun r => r.addHeader runtimeHeader (toString elapsed ++ " us") }
  else reply

/-- Answers the request of an environment. -/
def handle (settings : Settings) (env : Environment) (elapsed : Nat) (input : Input) : Reply :=
  match Request.ofEnvironment env with
  | .error fault => ⟨[], .error (.method fault), input⟩
  | .ok request => (respond settings request input).stamp settings elapsed

/-- Answers requests one after another, each from where the one before stopped reading. -/
def handleAll (elapsed : Nat) (input : Input) : List (Settings × Environment) → List Reply
  | [] => []
  | (settings, env) :: rest =>
    let reply := handle settings env elapsed input
    reply :: handleAll elapsed reply.rest rest

@[simp] theorem rest_stamp (settings : Settings) (elapsed : Nat) (reply : Reply) :
    (reply.stamp settings elapsed).rest = reply.rest := by
  unfold stamp; split <;> rfl

@[simp] theorem log_stamp (settings : Settings) (elapsed : Nat) (reply : Reply) :
    (reply.stamp settings elapsed).log = reply.log := by
  unfold stamp; split <;> rfl

theorem stamp_of_not_debug {settings : Settings} (h : settings.debug = false) (elapsed : Nat)
    (reply : Reply) : reply.stamp settings elapsed = reply := by simp [stamp, h]

end Reply

end FormReply
