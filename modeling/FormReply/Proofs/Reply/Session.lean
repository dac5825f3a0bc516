import FormReply.Proofs.Reply.Cases

/-!
# Sessions

In a session several requests are answered one after another from one stream.  A request that
announces the length of its body takes just this body from the stream, whatever comes of it, and a
request without a body takes nothing.  So the bodies may stand in a row, and every request is
answered as if it were alone.

* `Session`: replies to requests on one stream, each given in a time of its own;
* `Owns`: the bytes of the stream that belong to a request;
* `handle_of_owns`: one request takes its own bytes;
* `session_framing`: **every request of a session** takes its own bytes, and is answered as if it
  were alone.
-/

namespace FormReply

/-- The response with `<N>` in place of the time that it took. -/
def Response.maskRuntime (r : Response) : Response :=
  { r with
    headers := r.headers.map fun h => if h.1 = Reply.runtimeHeader then (h.1, "<N> us") else h }

namespace Reply

/-- The response, or why there is none, without the time that it took. -/
def masked (reply : Reply) : Except Refusal Response := reply.outcome.map Response.maskRuntime

theorem masked_of_outcome_eq {reply reply' : Reply} (h : reply.outcome = reply'.outcome) :
    reply.masked = reply'.masked := by rw [masked, masked, h]

/-- The time that an answer took makes no other difference. -/
theorem masked_stamp {reply reply' : Reply} (h : reply.outcome = reply'.outcome)
    (settings : Settings) (elapsed elapsed' : Nat) :
    (reply.stamp settings elapsed).masked = (reply'.stamp settings elapsed').masked := by
  by_cases hdebug : settings.debug = true
  · unfold stamp masked
    rw [if_pos hdebug, if_pos hdebug, h]
    cases reply'.outcome with
    | error e => rfl
    | ok r => simp [Except.map, Response.maskRuntime, Response.addHeader]
  · have hdebug : settings.debug = false := by simpa using hdebug
    rw [stamp_of_not_debug hdebug, stamp_of_not_debug hdebug, masked_of_outcome_eq h]

/-! ### The bytes of a request -/

/-- The bytes of the stream that belong to a request: a body of the announced length within the
limit, and nothing if the announced length is over the limit or no form is posted. -/
inductive Owns (settings : Settings) (env : Environment) : Bytes → Prop where
  /-- The length of the body is announced as a decimal numeral. -/
  | posted {body : Bytes} (hpost : IsPost env)
    (hlength : env "CONTENT_LENGTH" = some (Bytes.ofString (toString body.length)))
    (hbound : body.length < 2 ^ 32)
    (hlimit : ∀ m, settings.bodyLimit = some m → body.length ≤ m) : Owns settings env body
  /-- The body is refused for its announced length. -/
  | refused (hpost : IsPost env) {n m : Nat} (hlength : announcedLength env = some n)
    (hlimit : settings.bodyLimit = some m) (h : m < n) : Owns settings env []
  /-- The method is another one, is not usable, or is missing. -/
  | unread (h : ¬ IsPost env) : Owns settings env []

theorem announcedLength_of_toString {env : Environment} {n : Nat}
    (h : env "CONTENT_LENGTH" = some (Bytes.ofString (toString n))) (hn : n < 2 ^ 32) :
    announcedLength env = some n := by
  have hnone : ∀ c ∈ "".toList, Text.isBlank c := by simp
  refine announcedLength_of_pad hn hnone hnone ?_
  rwa [String.empty_append, String.append_empty]

theorem readBody_append {limit : Option Nat} {body : Bytes}
    (hlimit : ∀ m, limit = some m → body.length ≤ m) (rest : Bytes) (ending : Ending) :
    readBody (some body.length) limit ⟨body ++ rest, ending⟩ = (.ok body, ⟨rest, ending⟩) := by
  have hread := Input.read_append body rest ending
  cases limit with
  | none =>
    have hdemand : bodyDemand (some body.length) none = some (.upTo body.length) := rfl
    rw [readBody_of_ok hdemand hread]
    rfl
  | some m =>
    have hm : ¬ m < body.length := by
      have := hlimit m rfl
      omega
    have hdemand : bodyDemand (some body.length) (some m) = some (.upTo body.length) := if_neg hm
    have hwithin : ¬ (some m).any (· < body.length) = true := by simpa using hm
    rw [readBody_of_ok hdemand hread, if_neg hwithin]

/-- **A request takes the bytes that belong to it**, and is answered as if nothing stood behind
them. -/
theorem handle_of_owns {settings : Settings} {env : Environment} {body : Bytes}
    (h : Owns settings env body) (rest : Bytes) (ending ending' : Ending) (elapsed elapsed' : Nat) :
    (handle settings env elapsed ⟨body ++ rest, ending⟩).rest = ⟨rest, ending⟩ ∧
      (handle settings env elapsed ⟨body ++ rest, ending⟩).masked =
        (handle settings env elapsed' ⟨body, ending'⟩).masked := by
  cases h with
  | posted hpost hlength hbound hlimit =>
    have hread := readBody_append hlimit rest ending
    have halone := readBody_append hlimit [] ending'
    rw [List.append_nil] at halone
    rw [handle_of_post hpost, handle_of_post hpost, rest_stamp, rest_respondPost,
      contentLength_postRequest, announcedLength_of_toString hlength hbound, hread]
    refine ⟨rfl, masked_stamp ?_ settings elapsed elapsed'⟩
    rw [outcome_respondPost, outcome_respondPost, contentLength_postRequest,
      announcedLength_of_toString hlength hbound, hread, halone]
  | @refused hpost n m hlength hlimit h =>
    have hdemand : bodyDemand (some n) (some m) = none := if_pos h
    rw [List.nil_append, handle_of_post hpost, handle_of_post hpost, rest_stamp, rest_respondPost,
      contentLength_postRequest, hlength, hlimit, readBody_of_none hdemand]
    refine ⟨rfl, masked_stamp ?_ settings elapsed elapsed'⟩
    rw [outcome_respondPost, outcome_respondPost, contentLength_postRequest, hlength, hlimit,
      readBody_of_none hdemand, readBody_of_none hdemand]
  | unread h =>
    obtain ⟨log, hlog⟩ := handle_of_not_post h settings elapsed ⟨rest, ending⟩
    obtain ⟨log', hlog'⟩ := handle_of_not_post h settings elapsed' ⟨[], ending'⟩
    rw [List.nil_append, hlog, hlog', rest_stamp]
    refine ⟨rfl, masked_stamp ?_ settings elapsed elapsed'⟩
    rfl

/-! ### Requests one after another -/

/-- The replies to requests on one stream, each given in a time of its own, and each from where the
one before stopped reading. -/
inductive Session : Input → List (Settings × Environment) → List Reply → Prop where
  | nil {input : Input} : Session input [] []
  | cons {input : Input} {settings : Settings} {env : Environment}
    {requests : List (Settings × Environment)} {replies : List Reply} (elapsed : Nat)
    (h : Session (handle settings env elapsed input).rest requests replies) :
    Session input ((settings, env) :: requests) (handle settings env elapsed input :: replies)

theorem session_handleAll (elapsed : Nat) (input : Input)
    (requests : List (Settings × Environment)) :
    Session input requests (handleAll elapsed input requests) := by
  induction requests generalizing input with
  | nil => exact .nil
  | cons request requests ih => exact .cons elapsed (ih _)

/-- A request of a session, with the bytes that are meant for it. -/
structure Turn where
  settings : Settings
  env : Environment
  body : Bytes

/-- The stream with the bytes of several requests in a row, and others behind them. -/
def streamOf (turns : List Turn) (rest : Bytes) (ending : Ending) : Input :=
  ⟨(turns.map (·.body)).flatten ++ rest, ending⟩

theorem streamOf_cons (turn : Turn) (turns : List Turn) (rest : Bytes) (ending : Ending) :
    streamOf (turn :: turns) rest ending =
      ⟨turn.body ++ (streamOf turns rest ending).pending, ending⟩ := by
  rw [streamOf, streamOf, List.map_cons, List.flatten_cons, List.append_assoc]

/-- **Every request of a session** finds the stream at its own bytes, takes exactly these, and is
answered as if it were alone with them. -/
theorem session_framing {turns : List Turn}
    (h : ∀ turn ∈ turns, Owns turn.settings turn.env turn.body) {rest : Bytes} {ending : Ending}
    {replies : List Reply}
    (hs : Session (streamOf turns rest ending) (turns.map fun turn => (turn.settings, turn.env))
      replies) :
    replies.length = turns.length ∧
      ∀ i turn reply, turns[i]? = some turn → replies[i]? = some reply →
        (∃ elapsed, reply = handle turn.settings turn.env elapsed
          (streamOf (turns.drop i) rest ending)) ∧
        (streamOf (turns.drop i) rest ending).pending = turn.body ++ reply.rest.pending ∧
        reply.rest = streamOf (turns.drop (i + 1)) rest ending ∧
        ∀ elapsed ending', reply.masked =
          (handle turn.settings turn.env elapsed ⟨turn.body, ending'⟩).masked := by
  induction turns generalizing replies with
  | nil =>
    cases hs with
    | nil => exact ⟨rfl, by simp⟩
  | cons turn turns ih =>
    cases hs with
    | @cons _ _ _ _ replies elapsed hs =>
      have howns := h turn List.mem_cons_self
      have hstep := fun elapsed' ending' =>
        handle_of_owns howns (streamOf turns rest ending).pending ending ending' elapsed elapsed'
      rw [← streamOf_cons] at hstep
      have hrest : (handle turn.settings turn.env elapsed
          (streamOf (turn :: turns) rest ending)).rest = streamOf turns rest ending :=
        (hstep 0 .done).1
      -- The first request leaves the stream as the others are meant to find it.
      rw [hrest] at hs
      obtain ⟨hlength, hrun⟩ := ih (fun turn ht => h turn (List.mem_cons_of_mem _ ht)) hs
      refine ⟨by rw [List.length_cons, List.length_cons, hlength], fun i => ?_⟩
      cases i with
      | zero =>
        intro turn' reply ht hr
        obtain rfl : turn = turn' := by simpa using ht
        obtain rfl : _ = reply := by simpa using hr
        refine ⟨⟨elapsed, rfl⟩, ?_, hrest, fun elapsed' ending' => (hstep elapsed' ending').2⟩
        rw [hrest, List.drop_zero, streamOf_cons]
      | succ i =>
        exact fun turn' reply ht hr =>
          hrun i turn' reply (by simpa using ht) (by simpa using hr)

/-- A body of a type that holds no form, with `debug`; a request without a body; a body over the
limit; a stream of parts that is cut short; a method that is no text; and a form.  The stream fails
behind the last body. -/
theorem session_framing_of_faulty_requests :
    let env := fun s => Environment.ofBlock (Bytes.ofString s)
    let turns : List Turn :=
      [⟨{ debug := true }, env ("REQUEST_METHOD=POST\x00CONTENT_LENGTH=3\x00" ++
          "CONTENT_TYPE=text/plain\x00"), Bytes.ofString "a=1"⟩,
        ⟨{}, env "REQUEST_METHOD=GET\x00CONTENT_LENGTH=3\x00", []⟩,
        ⟨{ maxBodyLength := 2 }, env "REQUEST_METHOD=POST\x00CONTENT_LENGTH=3\x00", []⟩,
        ⟨{}, env ("REQUEST_METHOD=POST\x00CONTENT_LENGTH=5\x00" ++
          "CONTENT_TYPE=multipart/form-data; boundary=b\x00"), Bytes.ofString "--b\x0d\n"⟩,
        ⟨{}, Environment.ofBlock (Bytes.ofString "REQUEST_METHOD=" ++ [0xFF, 0]), []⟩,
        ⟨{ maxBodyLength := 3 }, env "REQUEST_METHOD=POST\x00CONTENT_LENGTH=3\x00",
          Bytes.ofString "b=2"⟩]
    let requests := turns.map fun turn => (turn.settings, turn.env)
    let ending := Ending.failure "lost"
    let replies := handleAll 7 (streamOf turns [] ending) requests
    (∀ turn ∈ turns, Owns turn.settings turn.env turn.body) ∧
      Session (streamOf turns [] ending) requests replies ∧
      replies.length = turns.length ∧
      ∀ i turn reply, turns[i]? = some turn → replies[i]? = some reply →
        (∃ elapsed, reply = handle turn.settings turn.env elapsed
          (streamOf (turns.drop i) [] ending)) ∧
        (streamOf (turns.drop i) [] ending).pending = turn.body ++ reply.rest.pending ∧
        reply.rest = streamOf (turns.drop (i + 1)) [] ending ∧
        ∀ elapsed ending', reply.masked =
          (handle turn.settings turn.env elapsed ⟨turn.body, ending'⟩).masked := by
  intro env turns requests ending replies
  have howns : ∀ turn ∈ turns, Owns turn.settings turn.env turn.body := by
    simp only [turns, List.forall_mem_cons]
    refine ⟨?_, ?_, ?_, ?_, ?_, ?_, by simp⟩
    · exact .posted (by decide +kernel) (by decide +kernel) (by decide +kernel)
        (by simp [Settings.bodyLimit])
    · exact .unread (by decide +kernel)
    · exact @Owns.refused _ _ (by decide +kernel) 3 2 (by decide +kernel) rfl (by decide)
    · exact .posted (by decide +kernel) (by decide +kernel) (by decide +kernel)
        (by simp [Settings.bodyLimit])
    · exact .unread (by decide +kernel)
    · exact .posted (by decide +kernel) (by decide +kernel) (by decide +kernel)
        (by simp [Settings.bodyLimit]; decide)
  have hs := session_handleAll 7 (streamOf turns [] ending) requests
  exact ⟨howns, hs, session_framing howns hs⟩

end Reply

end FormReply
