import FormReply.Proofs.Bytes.Lines
import FormReply.Proofs.Json.RoundTrip
import FormReply.Proofs.Reply.Cases

/-!
# The lines of an answer

An answer is a head, an empty line, the line of the method and, for a posted form, the line of its
data.  The data are written without line feeds, but the method is written as it came: with a line
feed in it, it makes lines of its own, and these may look like the line of a form.

* `linesBehindHead_append`: the head ends with the first empty line;
* `lines_of_response`: **the lines of an answer**, and when one of them begins like data;
* `method_with_line_feed_forges_data`: a method that forges the line of a form, and one that forges
  a whole answer.
-/

namespace FormReply.Reply

open FormReply.Bytes (ofString lines linesBehindHead)

/-- What every answer begins with, up to its first empty line. -/
def head : Bytes := ofString "HTTP/1.1 200 OK\nContent-type: application/json\n\n"

/-- What the line of the data begins with. -/
def dataMark : Bytes := ofString "POST DATA: "

/-- The line of a method. -/
def methodLine (method : String) : Bytes := ofString "Request Method: " ++ ofString method

theorem ofString_append (s t : String) : ofString (s ++ t) = ofString s ++ ofString t := by
  rw [Bytes.ofString, String.toList_append, List.flatMap_append]
  rfl

theorem body_methodResponse (method : String) :
    (methodResponse method).body = methodLine method ++ [10] := by
  rw [methodResponse, Response.body_addLine, ofString_append]
  rfl

/-- Without the time it took, an answer is its head and its body. -/
theorem bytes_eq_head_append {r : Response} (hs : r.status = .ok)
    (hh : r.headers = [("Content-type", "application/json")]) : r.bytes = head ++ r.body := by
  have hhead : Bytes.ofString ("HTTP/1.1 " ++ Status.ok.text ++ "\n") ++
      ([("Content-type", "application/json")].map Response.headerLine).flatten ++ [10] = head := by
    decide +kernel
  rw [Response.bytes_eq, Response.statusLine, hs, hh, hhead]

theorem bytes_methodResponse (method : String) :
    (methodResponse method).bytes = head ++ (methodLine method ++ [10]) := by
  rw [bytes_eq_head_append rfl rfl, body_methodResponse]

theorem bytes_postResponse (form : Form) :
    ((methodResponse post).addLine (dataLine form)).bytes =
      head ++ (methodLine post ++ 10 :: (dataLine form ++ [10])) := by
  rw [bytes_eq_head_append rfl rfl, Response.body_addLine, body_methodResponse]
  simp only [List.append_assoc, List.cons_append, List.nil_append]

/-! ### Lines -/

/-- The lines of the head. -/
theorem head_append (s : Bytes) :
    head ++ s = [ofString "HTTP/1.1 200 OK", ofString "Content-type: application/json"].flatMap
      (· ++ [10]) ++ 10 :: s := by
  have hhead : head = [ofString "HTTP/1.1 200 OK",
      ofString "Content-type: application/json"].flatMap (· ++ [10]) ++ [10] := by decide +kernel
  rw [hhead, List.append_assoc, List.singleton_append]

theorem lines_head_append (s : Bytes) :
    lines (head ++ s) =
      ofString "HTTP/1.1 200 OK" :: ofString "Content-type: application/json" :: [] :: lines s := by
  rw [head_append]
  exact Bytes.lines_head_rest (by decide +kernel) s

/-- **The head** ends with the first empty line. -/
theorem linesBehindHead_append (s : Bytes) : linesBehindHead (head ++ s) = lines s := by
  rw [head_append]
  exact Bytes.linesBehindHead_flatMap_append (by decide +kernel) s

/-- The line of the data is one line, whatever the fields hold. -/
theorem not_mem_dataLine (form : Form) : 10 ∉ dataLine form := by
  rw [dataLine, List.mem_append, not_or]
  refine ⟨by decide +kernel, fun h => ?_⟩
  -- A written object is printable, and a line feed is not.
  have hb := (Json.isPrintableByte_iff.1 (Json.isPrintableByte_of_mem_write h)).1
  exact absurd hb (by decide)

theorem not_mem_methodLine {method : String} (h : 10 ∉ ofString method) :
    10 ∉ methodLine method := by
  rw [methodLine, List.mem_append, not_or]
  exact ⟨by decide +kernel, h⟩

/-- The line of a method does not begin like data, so only a line feed in the method makes a line
that does. -/
theorem exists_mem_lines_methodLine_iff (method : String) :
    (∃ line ∈ lines (methodLine method), dataMark <+: line) ↔
      10 :: dataMark <:+: ofString method := by
  have hmark : 10 ∉ dataMark := by decide +kernel
  have hlabel : 10 ∉ ofString "Request Method: " := by decide +kernel
  have hstart : ¬ dataMark <+: methodLine method := by
    rintro ⟨rest, hrest⟩
    have hdata : dataMark.head? = some 80 := by decide +kernel
    have hmethod : (ofString "Request Method: ").head? = some 82 := by decide +kernel
    have hfirst := congrArg List.head? hrest
    rw [methodLine, List.head?_append, List.head?_append, hdata, hmethod] at hfirst
    exact absurd hfirst (by simp)
  rw [Bytes.exists_mem_lines_iff hmark, methodLine, Bytes.cons_infix_append_iff hlabel]
  exact or_iff_right hstart

/-! ### Answers -/

/-- The answers to a method: its line, and for a posted form that of the data. -/
inductive IsAnswer : String → Response → Prop where
  | plain {method : String} (h : method ≠ post) : IsAnswer method (methodResponse method)
  | posted (form : Form) : IsAnswer post ((methodResponse post).addLine (dataLine form))

/-- Without `debug`, an answer tells the method and, if that is `POST`, the data. -/
theorem exists_isAnswer {settings : Settings} (hdebug : settings.debug = false) {env : Environment}
    {elapsed : Nat} {input : Input} {response : Response}
    (h : (handle settings env elapsed input).outcome = .ok response) :
    ∃ method, env Request.methodVariable = some (ofString method) ∧ IsAnswer method response := by
  by_cases hpost : IsPost env
  · rw [handle_of_post hpost, stamp_of_not_debug hdebug] at h
    obtain ⟨-, form, -, -, rfl⟩ := outcome_respondPost_iff.1 h
    exact ⟨post, hpost, .posted form⟩
  · rw [outcome_handle_of_not_post hpost hdebug] at h
    obtain ⟨method, hmethod, rfl⟩ := plainOutcome_eq_ok h
    have hne : method ≠ post := by
      rintro rfl
      exact hpost hmethod
    exact ⟨method, hmethod, .plain hne⟩

theorem linesBehindHead_methodResponse (method : String) :
    linesBehindHead (methodResponse method).bytes = lines (methodLine method) ++ [[]] := by
  rw [bytes_methodResponse, linesBehindHead_append, Bytes.lines_concat]

theorem linesBehindHead_postResponse (form : Form) :
    linesBehindHead ((methodResponse post).addLine (dataLine form)).bytes =
      [methodLine post, dataLine form, []] := by
  have hpost : 10 ∉ methodLine post := not_mem_methodLine (by decide +kernel)
  rw [bytes_postResponse, linesBehindHead_append, Bytes.lines_append_cons, Bytes.lines_concat,
    Bytes.lines_of_not_mem hpost, Bytes.lines_of_not_mem (not_mem_dataLine form)]
  rfl

theorem exists_mem_lines_head_append_iff (s : Bytes) :
    (∃ line ∈ lines (head ++ s), dataMark <+: line) ↔ ∃ line ∈ lines s, dataMark <+: line := by
  have hstatus : ¬ dataMark <+: ofString "HTTP/1.1 200 OK" := by decide +kernel
  have htype : ¬ dataMark <+: ofString "Content-type: application/json" := by decide +kernel
  have hempty : ¬ dataMark <+: [] := by decide +kernel
  simp only [lines_head_append, List.mem_cons, exists_eq_or_imp, hstatus, htype, hempty, false_or]

/-- A line that begins like data is that of a posted form, or made by the method. -/
theorem exists_mem_lines_iff_of_isAnswer {method : String} {response : Response}
    (h : IsAnswer method response) :
    (∃ line ∈ lines response.bytes, dataMark <+: line) ↔
      method = post ∨ 10 :: dataMark <:+: ofString method := by
  cases h with
  | plain h =>
    have hempty : ¬ dataMark <+: [] := by decide +kernel
    rw [bytes_methodResponse, exists_mem_lines_head_append_iff, Bytes.lines_concat, or_iff_right h,
      ← exists_mem_lines_methodLine_iff]
    simp only [List.mem_append, List.mem_singleton, or_and_right, exists_or, exists_eq_left, hempty,
      or_false]
  | posted form =>
    have hdata : dataMark <+: dataLine form := List.prefix_append _ _
    have hmem : dataLine form ∈ lines (methodLine post ++ 10 :: (dataLine form ++ [10])) := by
      rw [Bytes.lines_append_cons, Bytes.lines_concat,
        Bytes.lines_of_not_mem (not_mem_dataLine form)]
      simp
    rw [bytes_postResponse, exists_mem_lines_head_append_iff]
    exact iff_of_true ⟨dataLine form, hmem, hdata⟩ (Or.inl rfl)

/-- The method begins like the answer to a posted form. -/
def LooksPosted (method : String) : Prop := ofString "POST\nPOST DATA: " <+: ofString method

/-- An answer that tells the data of a form is also that of a method that looks like it. -/
theorem looksPosted_of_bytes_eq {method : String} {form : Form}
    (h : (methodResponse method).bytes = ((methodResponse post).addLine (dataLine form)).bytes) :
    LooksPosted method := by
  have hmark : ofString "POST\nPOST DATA: " = ofString post ++ 10 :: dataMark := by decide +kernel
  have hbody : methodLine post ++ 10 :: (dataLine form ++ [10]) =
      ofString "Request Method: " ++ (ofString post ++ 10 :: dataLine form) ++ [10] := by
    rw [methodLine]
    simp only [List.append_assoc, List.cons_append]
  rw [bytes_methodResponse, bytes_postResponse, List.append_cancel_left_eq, hbody, methodLine,
    List.append_cancel_right_eq, List.append_cancel_left_eq] at h
  rw [LooksPosted, h, hmark, List.prefix_append_right_inj, List.cons_prefix_cons]
  exact ⟨rfl, List.prefix_append _ _⟩

/-- **An answer tells the method**, unless one that looks like the answer to a posted form is taken
for `POST`. -/
theorem method_eq_of_bytes_eq {method method' : String} {response response' : Response}
    (h : IsAnswer method response) (h' : IsAnswer method' response')
    (hbytes : response.bytes = response'.bytes) :
    method = method' ∨ (method = post ∧ LooksPosted method') ∨
      (method' = post ∧ LooksPosted method) := by
  cases h with
  | plain hne =>
    cases h' with
    | plain hne' =>
      rw [bytes_methodResponse, bytes_methodResponse, methodLine, methodLine,
        List.append_cancel_left_eq, List.append_cancel_right_eq, List.append_cancel_left_eq,
        Utf8.ofString_inj] at hbytes
      exact Or.inl hbytes
    | posted form => exact Or.inr (Or.inr ⟨rfl, looksPosted_of_bytes_eq hbytes⟩)
  | posted form =>
    cases h' with
    | plain hne' => exact Or.inr (Or.inl ⟨rfl, looksPosted_of_bytes_eq hbytes.symm⟩)
    | posted form' => exact Or.inl rfl

/-- **The lines of an answer.**  Without `debug`, the lines behind the first empty one are the line
of the method alone, if that is not `POST` and has no line feed, and for `POST` the line of the
method and that of the data.  A line begins like data exactly if the method is `POST` or makes such
a line by a line feed.  And requests with different methods are answered differently, unless one
method is `POST` and the other one looks like the answer to it. -/
theorem lines_of_response {settings : Settings} (hdebug : settings.debug = false)
    {env : Environment} {elapsed : Nat} {input : Input} {response : Response}
    (h : (handle settings env elapsed input).outcome = .ok response) :
    ∃ method, env Request.methodVariable = some (ofString method) ∧
      (method ≠ post → 10 ∉ ofString method →
        linesBehindHead response.bytes = [methodLine method, []]) ∧
      (method = post → ∃ data, dataMark <+: data ∧
        linesBehindHead response.bytes = [methodLine post, data, []]) ∧
      ((∃ line ∈ lines response.bytes, dataMark <+: line) ↔
        method = post ∨ 10 :: dataMark <:+: ofString method) ∧
      ∀ settings' env' elapsed' input' response' method', settings'.debug = false →
        (handle settings' env' elapsed' input').outcome = .ok response' →
        env' Request.methodVariable = some (ofString method') →
        response.bytes = response'.bytes →
        method = method' ∨ (method = post ∧ LooksPosted method') ∨
          (method' = post ∧ LooksPosted method) := by
  obtain ⟨method, hmethod, hanswer⟩ := exists_isAnswer hdebug h
  refine ⟨method, hmethod, fun hne hfeed => ?_, fun hpost => ?_,
    exists_mem_lines_iff_of_isAnswer hanswer, ?_⟩
  · cases hanswer with
    | plain =>
      rw [linesBehindHead_methodResponse, Bytes.lines_of_not_mem (not_mem_methodLine hfeed)]
      rfl
    | posted form => exact absurd rfl hne
  · cases hanswer with
    | plain hne => exact absurd hpost hne
    | posted form =>
      exact ⟨dataLine form, List.prefix_append _ _, linesBehindHead_postResponse form⟩
  · intro settings' env' elapsed' input' response' method' hdebug' h' hmethod' hbytes
    obtain ⟨method'', hmethod'', hanswer'⟩ := exists_isAnswer hdebug' h'
    rw [hmethod', Option.some.injEq, Utf8.ofString_inj] at hmethod''
    subst hmethod''
    exact method_eq_of_bytes_eq hanswer hanswer' hbytes

/-- A form whose data look like lines of their own. -/
theorem lines_of_response_with_forged_data :
    let env := Environment.ofBlock (ofString "REQUEST_METHOD=POST\x00")
    let input : Input := ⟨ofString "a=%0APOST DATA: \x7b\x7d", .done⟩
    let settings : Settings := {}
    let response : Response := ⟨.ok, [("Content-type", "application/json")], ofString
      "Request Method: POST\nPOST DATA: \x7b\"a\": \"\\nPOST DATA: \x7b\x7d\"\x7d\n"⟩
    settings.debug = false ∧ (handle settings env 0 input).outcome = .ok response ∧
      ∃ method, env Request.methodVariable = some (ofString method) ∧
        (method ≠ post → 10 ∉ ofString method →
          linesBehindHead response.bytes = [methodLine method, []]) ∧
        (method = post → ∃ data, dataMark <+: data ∧
          linesBehindHead response.bytes = [methodLine post, data, []]) ∧
        ((∃ line ∈ lines response.bytes, dataMark <+: line) ↔
          method = post ∨ 10 :: dataMark <:+: ofString method) ∧
        ∀ settings' env' elapsed' input' response' method', settings'.debug = false →
          (handle settings' env' elapsed' input').outcome = .ok response' →
          env' Request.methodVariable = some (ofString method') →
          response.bytes = response'.bytes →
          method = method' ∨ (method = post ∧ LooksPosted method') ∨
            (method' = post ∧ LooksPosted method) := by
  intro env input settings response
  have hok : (handle settings env 0 input).outcome = .ok response := by decide +kernel
  have hdebug : settings.debug = false := rfl
  exact ⟨hdebug, hok, lines_of_response hdebug hok⟩

/-- **A method forges data**: behind a line feed it makes a line that begins like data, though no
form is posted; and a method that looks like the answer to an empty form is answered like it. -/
theorem method_with_line_feed_forges_data :
    let env := fun method => Environment.ofBlock (ofString ("REQUEST_METHOD=" ++ method))
    let answer := fun method => (handle {} (env method) 0 ⟨[], .done⟩).outcome
    (∃ response, answer "GET\nPOST DATA: \x7b\x7d" = .ok response ∧
      ¬ IsPost (env "GET\nPOST DATA: \x7b\x7d") ∧
      linesBehindHead response.bytes =
        [ofString "Request Method: GET", ofString "POST DATA: \x7b\x7d", []] ∧
      ∃ line ∈ lines response.bytes, dataMark <+: line) ∧
    ∃ response response', answer "POST" = .ok response ∧
      answer "POST\nPOST DATA: \x7b\x7d" = .ok response' ∧ response.bytes = response'.bytes ∧
      env "POST" Request.methodVariable ≠
        env "POST\nPOST DATA: \x7b\x7d" Request.methodVariable := by
  intro env answer
  constructor
  · refine ⟨methodResponse "GET\nPOST DATA: \x7b\x7d", ?_, ?_, ?_,
      ofString "POST DATA: \x7b\x7d", ?_, ?_⟩ <;> decide +kernel
  · refine ⟨(methodResponse post).addLine (ofString "POST DATA: \x7b\x7d"),
      methodResponse "POST\nPOST DATA: \x7b\x7d", ?_, ?_, ?_, ?_⟩ <;> decide +kernel

end FormReply.Reply
