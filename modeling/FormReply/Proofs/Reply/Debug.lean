import FormReply.Proofs.Reply.Lines

/-!
# Answers with `debug`

Every answer begins with the same head, whatever the request holds.  With `debug` the head has one
line more, which tells how long the answer took, and nothing else is different: the same requests
are refused, the same bytes are read, and behind the head stands the same.

* `outcome_handle_withDebug`, `rest_handle_withDebug`: what `debug` does to an answer;
* `bytes_of_handle`, `lines_of_handle`: an answer is the lines of its head and its body;
* `debug_adds_runtime`: **the head of an answer**, and what `debug` adds to it.
-/

namespace FormReply

/-- The settings with or without `debug`. -/
def Settings.withDebug (settings : Settings) (debug : Bool) : Settings := { settings with debug }

namespace Reply

open FormReply.Bytes (ofString lines headLines behindHead)

/-! ### What `debug` does -/

/-- The response with the time that it took. -/
def withRuntime (elapsed : Nat) (r : Response) : Response :=
  r.addHeader runtimeHeader (toString elapsed ++ " us")

theorem outcome_stamp_of_debug {settings : Settings} (h : settings.debug = true) (elapsed : Nat)
    (reply : Reply) :
    (reply.stamp settings elapsed).outcome = reply.outcome.map (withRuntime elapsed) := by
  rw [stamp, if_pos h]
  rfl

/-- As much is read with `debug` as without it. -/
theorem rest_handle_withDebug (settings : Settings) (debug debug' : Bool) (env : Environment)
    (elapsed elapsed' : Nat) (input : Input) :
    (handle (settings.withDebug debug) env elapsed input).rest =
      (handle (settings.withDebug debug') env elapsed' input).rest := by
  by_cases h : IsPost env
  · rw [handle_of_post h, handle_of_post h, rest_stamp, rest_stamp, rest_respondPost,
      rest_respondPost]
    rfl
  · obtain ⟨log, hhandle⟩ := handle_of_not_post h (settings.withDebug debug) elapsed input
    obtain ⟨log', hhandle'⟩ := handle_of_not_post h (settings.withDebug debug') elapsed' input
    rw [hhandle, hhandle', rest_stamp, rest_stamp]

/-- **What `debug` does to an answer**: it adds the time that it took, and nothing else. -/
theorem outcome_handle_withDebug (settings : Settings) (env : Environment)
    (elapsed elapsed' : Nat) (input : Input) :
    (handle (settings.withDebug true) env elapsed input).outcome =
      (handle (settings.withDebug false) env elapsed' input).outcome.map (withRuntime elapsed) := by
  have hon : (settings.withDebug true).debug = true := rfl
  have hoff : (settings.withDebug false).debug = false := rfl
  by_cases h : IsPost env
  · have hbody : bodyOutcome (settings.withDebug true) (postRequest env) =
        bodyOutcome (settings.withDebug false) (postRequest env) :=
      bodyOutcome_congr rfl rfl rfl rfl
    rw [handle_of_post h, outcome_stamp_of_debug hon, outcome_respondPost,
      outcome_handle_of_post h hoff, contentLength_postRequest, hbody]
    rfl
  · obtain ⟨log, hhandle⟩ := handle_of_not_post h (settings.withDebug true) elapsed input
    rw [hhandle, outcome_stamp_of_debug hon, outcome_handle_of_not_post h hoff]

theorem body_eq_of_withRuntime {elapsed : Nat} {loud quiet : Except Refusal Response}
    (hloud : loud = quiet.map (withRuntime elapsed)) {response response' : Response}
    (h : loud = .ok response) (h' : quiet = .ok response') : response.body = response'.body := by
  rw [hloud, h', Except.map, Except.ok.injEq] at h
  rw [← h, withRuntime, Response.body_addHeader]

/-! ### The head -/

/-- The lines of the head of an answer. -/
def headBlock (settings : Settings) (elapsed : Nat) : List Bytes :=
  [ofString "HTTP/1.1 200 OK", ofString "Content-type: application/json"] ++
    if settings.debug then [ofString ("X-Echo-Cgi-Runtime: " ++ toString elapsed ++ " us")] else []

/-- The line tells how long an answer took. -/
def isRuntimeLine (line : Bytes) : Bool := (ofString "X-Echo-Cgi-Runtime: ").isPrefixOf line

theorem runtimeLine_eq (elapsed : Nat) :
    ofString ("X-Echo-Cgi-Runtime: " ++ toString elapsed ++ " us") =
      ofString "X-Echo-Cgi-Runtime: " ++ ofString (toString elapsed) ++ ofString " us" := by
  rw [ofString_append, ofString_append]

/-- A number is written without line feeds. -/
theorem not_mem_ofString_toString (n : Nat) : 10 ∉ ofString (toString n) := by
  intro h
  have hmem := Utf8.mem_of_mem_encode (by decide) h
  have hdigits : (toString n).toList = Nat.toDigits 10 n := Nat.toList_repr
  rw [hdigits] at hmem
  exact absurd (Numeral.isDigit_of_mem_toDigits hmem) (by decide)

/-- **No line of the head** is empty, and none is broken. -/
theorem ne_nil_and_not_mem_of_mem_headBlock {settings : Settings} {elapsed : Nat} {line : Bytes}
    (h : line ∈ headBlock settings elapsed) : line ≠ [] ∧ 10 ∉ line := by
  have hlabel : ofString "X-Echo-Cgi-Runtime: " ≠ [] ∧ 10 ∉ ofString "X-Echo-Cgi-Runtime: " := by
    decide +kernel
  have hunit : 10 ∉ ofString " us" := by decide +kernel
  rw [headBlock, List.mem_append, List.mem_pair] at h
  rcases h with (rfl | rfl) | h
  · decide +kernel
  · decide +kernel
  · split at h
    · rw [List.mem_singleton.1 h, runtimeLine_eq]
      refine ⟨by simp [hlabel], ?_⟩
      simp only [List.mem_append, not_or]
      exact ⟨⟨hlabel.2, not_mem_ofString_toString elapsed⟩, hunit⟩
    · simp at h

/-- A response is its lines up to the empty one, and its body. -/
theorem bytes_eq_lines_append (r : Response) :
    r.bytes = (ofString ("HTTP/1.1 " ++ r.status.text) ::
        r.headers.map fun h => ofString (h.1 ++ ": " ++ h.2)).flatMap (· ++ [10]) ++
      10 :: r.body := by
  have hfeed : ∀ s, ofString (s ++ "\n") = ofString s ++ [10] := fun s => by
    rw [ofString_append]
    rfl
  have hheader : Response.headerLine = fun h => ofString (h.1 ++ ": " ++ h.2) ++ [10] := by
    funext h
    rw [Response.headerLine, hfeed]
  rw [Response.bytes_eq, Response.statusLine, hfeed, hheader, List.flatMap_cons, List.flatMap_map,
    List.flatMap_def]
  simp only [List.append_assoc, List.cons_append, List.nil_append]

theorem headers_of_not_debug {settings : Settings} (hdebug : settings.debug = false)
    {env : Environment} {elapsed : Nat} {input : Input} {response : Response}
    (h : (handle settings env elapsed input).outcome = .ok response) :
    response.headers = [("Content-type", "application/json")] := by
  obtain ⟨method, -, hanswer⟩ := exists_isAnswer hdebug h
  cases hanswer with
  | plain => rfl
  | posted form => rfl

/-- **The head of an answer** holds nothing of the request. -/
theorem bytes_of_handle {settings : Settings} {env : Environment} {elapsed : Nat} {input : Input}
    {response : Response} (h : (handle settings env elapsed input).outcome = .ok response) :
    response.bytes =
      (headBlock settings elapsed).flatMap (· ++ [10]) ++ 10 :: response.body := by
  rw [bytes_eq_lines_append]
  cases hdebug : settings.debug with
  | false =>
    rw [headers_of_not_debug hdebug h, headBlock, hdebug]
    rfl
  | true =>
    have hsettings : settings = settings.withDebug true := by rw [Settings.withDebug, ← hdebug]
    rw [hsettings, outcome_handle_withDebug settings env elapsed elapsed, map_eq_ok_iff] at h
    obtain ⟨quiet, hquiet, rfl⟩ := h
    rw [withRuntime, Response.headers_addHeader, headers_of_not_debug rfl hquiet, headBlock, hdebug]
    rfl

/-- The lines of an answer are those of its head, the empty one, and those of its body. -/
theorem lines_of_handle {settings : Settings} {env : Environment} {elapsed : Nat} {input : Input}
    {response : Response} (h : (handle settings env elapsed input).outcome = .ok response) :
    lines response.bytes = headBlock settings elapsed ++ [] :: lines response.body := by
  rw [bytes_of_handle h]
  exact Bytes.lines_head_rest (fun _ => ne_nil_and_not_mem_of_mem_headBlock) response.body

theorem behindHead_of_handle {settings : Settings} {env : Environment} {elapsed : Nat}
    {input : Input} {response : Response}
    (h : (handle settings env elapsed input).outcome = .ok response) :
    behindHead response.bytes = response.body := by
  rw [bytes_of_handle h]
  exact Bytes.behindHead_flatMap_append (fun _ => ne_nil_and_not_mem_of_mem_headBlock) _

/-- The line that `debug` adds is the first one of its kind. -/
theorem eraseP_headBlock (settings : Settings) (elapsed elapsed' : Nat) (ls : List Bytes) :
    (headBlock (settings.withDebug true) elapsed ++ ls).eraseP isRuntimeLine =
      headBlock (settings.withDebug false) elapsed' ++ ls := by
  have hstatus : ¬ isRuntimeLine (ofString "HTTP/1.1 200 OK") = true := by decide +kernel
  have htype : ¬ isRuntimeLine (ofString "Content-type: application/json") = true := by
    decide +kernel
  have hruntime : isRuntimeLine
      (ofString ("X-Echo-Cgi-Runtime: " ++ toString elapsed ++ " us")) = true := by
    rw [isRuntimeLine, List.isPrefixOf_iff_prefix, runtimeLine_eq, List.append_assoc]
    exact List.prefix_append _ _
  have hloud : headBlock (settings.withDebug true) elapsed ++ ls =
      ofString "HTTP/1.1 200 OK" :: ofString "Content-type: application/json" ::
        ofString ("X-Echo-Cgi-Runtime: " ++ toString elapsed ++ " us") :: ls := rfl
  rw [hloud, List.eraseP_cons_of_neg hstatus, List.eraseP_cons_of_neg htype,
    List.eraseP_cons_of_pos hruntime]
  rfl

/-- **The head of an answer** is the status line, the type of the content and, with `debug`, the
time that the answer took; nothing of the request stands before the first empty line.  With `debug`
the same requests are refused, each with the same fault, as much is read, and behind the first empty
line stands the same; without the line of the time, an answer is that without `debug`. -/
theorem debug_adds_runtime (settings : Settings) (env : Environment) (elapsed elapsed' : Nat)
    (input : Input) :
    let quiet := handle (settings.withDebug false) env elapsed' input
    let loud := handle (settings.withDebug true) env elapsed input
    (∀ response, (handle settings env elapsed input).outcome = .ok response →
        headLines response.bytes = headBlock settings elapsed ∧
        response.bytes = (headBlock settings elapsed).flatMap (· ++ [10]) ++
          10 :: behindHead response.bytes) ∧
      loud.rest = quiet.rest ∧
      (∀ e, loud.outcome = .error e ↔ quiet.outcome = .error e) ∧
      ((∃ response, loud.outcome = .ok response) ↔ ∃ response, quiet.outcome = .ok response) ∧
      ∀ response response', loud.outcome = .ok response → quiet.outcome = .ok response' →
        behindHead response.bytes = behindHead response'.bytes ∧
        List.intercalate [10] ((lines response.bytes).eraseP isRuntimeLine) = response'.bytes := by
  intro quiet loud
  have hloud : loud.outcome = quiet.outcome.map (withRuntime elapsed) :=
    outcome_handle_withDebug settings env elapsed elapsed' input
  refine ⟨fun response h => ⟨?_, ?_⟩, rest_handle_withDebug settings _ _ env elapsed elapsed' input,
    fun e => ?_, ?_, fun response response' h h' => ⟨?_, ?_⟩⟩
  · rw [bytes_of_handle h]
    exact Bytes.headLines_flatMap_append (fun _ => ne_nil_and_not_mem_of_mem_headBlock) _
  · rw [behindHead_of_handle h, ← bytes_of_handle h]
  · rw [hloud, map_eq_error_iff]
  · rw [hloud]
    simp only [map_eq_ok_iff]
    constructor
    · rintro ⟨_, response', h', -⟩
      exact ⟨response', h'⟩
    · rintro ⟨response', h'⟩
      exact ⟨_, response', h', rfl⟩
  · rw [behindHead_of_handle h, behindHead_of_handle h']
    exact body_eq_of_withRuntime hloud h h'
  · rw [lines_of_handle h, eraseP_headBlock settings elapsed elapsed',
      body_eq_of_withRuntime hloud h h', ← lines_of_handle h', Bytes.intercalate_lines]

example :
    let env := Environment.ofBlock (ofString "REQUEST_METHOD=GET\n\nX-Echo-Cgi-Runtime: 0 us\x00")
    (handle { debug := true } env 7 ⟨[], .done⟩).outcome.map (headLines ·.bytes) =
      .ok [ofString "HTTP/1.1 200 OK", ofString "Content-type: application/json",
        ofString "X-Echo-Cgi-Runtime: 7 us"] := by decide +kernel

end Reply

end FormReply
