import FormReply.Response

/-!
# Writing a response

A response is put together by adding headers and lines, in any order, and it may be written out
between these steps.  What is written is its text: the status line, the headers, an empty line and
the lines.  A sink without enough room has taken a beginning of the text.

* `Sink.writeAll_eq_write`: byte strings written one after another are written as one;
* `Response.bytes_after`: the text of a response that is put together;
* `Response.reports_append`: what comes of writes one after another;
* `Response.report_of_write`: **what comes of a write**, and that it has no effect on others.
-/

namespace FormReply

namespace Sink

theorem write_of_le {n : Nat} {b : Bytes} (h : b.length ≤ n) (taken : Bytes) :
    write ⟨some n, taken⟩ b = (true, ⟨some (n - b.length), taken ++ b⟩) := by
  rw [write]
  simp only [h, decide_true, List.take_of_length_le h]

theorem write_of_lt {n : Nat} {b : Bytes} (h : n < b.length) (taken : Bytes) :
    write ⟨some n, taken⟩ b = (false, ⟨some 0, taken ++ b.take n⟩) := by
  have hroom : n - b.length = 0 := by omega
  have hfit : decide (b.length ≤ n) = false := by simpa using h
  rw [write]
  simp only [hfit, hroom]

/-- A sink takes as many bytes as it has room for. -/
theorem taken_write_some (n : Nat) (taken b : Bytes) :
    (write ⟨some n, taken⟩ b).2.taken = taken ++ b.take (min n b.length) := by
  rw [write, ← List.take_eq_take_min]

theorem write_some_eq_false_iff {n : Nat} {taken b : Bytes} :
    (write ⟨some n, taken⟩ b).1 = false ↔ n < b.length := by
  rw [write, decide_eq_false_iff_not, Nat.not_le]

/-- What is cut short fills the sink, so nothing behind it is taken. -/
theorem write_append (s : Sink) (a b : Bytes) :
    s.write (a ++ b) = if (s.write a).1 then (s.write a).2.write b else s.write a := by
  obtain ⟨room, taken⟩ := s
  cases room with
  | none => simp [write]
  | some n =>
    by_cases ha : a.length ≤ n
    · rw [write_of_le ha, if_pos rfl]
      by_cases hb : b.length ≤ n - a.length
      · have hab : (a ++ b).length ≤ n := by rw [List.length_append]; omega
        rw [write_of_le hab, write_of_le hb, List.length_append, Nat.sub_sub, List.append_assoc]
      · have hab : n < (a ++ b).length := by rw [List.length_append]; omega
        rw [write_of_lt hab, write_of_lt (by omega), List.take_append, List.take_of_length_le ha,
          List.append_assoc]
    · have hab : n < (a ++ b).length := by rw [List.length_append]; omega
      have hn : n ≤ a.length := by omega
      rw [write_of_lt hab, write_of_lt (Nat.lt_of_not_le ha), List.take_append_of_le_length hn]
      exact (if_neg (by simp)).symm

/-- **Byte strings that are written one after another** are written as one. -/
theorem writeAll_eq_write (s : Sink) (chunks : List Bytes) :
    s.writeAll chunks = s.write chunks.flatten := by
  induction chunks generalizing s with
  | nil =>
    obtain ⟨room, taken⟩ := s
    cases room <;> simp [writeAll, write]
  | cons b rest ih =>
    rw [List.flatten_cons, write_append, writeAll]
    cases hb : s.write b with
    | mk complete later =>
      cases complete with
      | true => exact ih later
      | false => rfl

end Sink

namespace Response

theorem writeTo_eq (r : Response) (s : Sink) : r.writeTo s = s.write r.bytes :=
  s.writeAll_eq_write r.chunks

/-- A sink without a limit takes a response as it is. -/
theorem writeTo_unlimited (r : Response) (taken : Bytes) :
    r.writeTo { room := none, taken } = (true, { room := none, taken := taken ++ r.bytes }) := by
  rw [writeTo_eq, Sink.write]

/-! ### Putting a response together -/

/-- What is done with a response. -/
inductive Action where
  | header (name value : String)
  | line (data : Bytes)
  /-- The response is written out. -/
  | write (sink : Sink)
deriving DecidableEq, Repr

namespace Action

/-- The header that is added. -/
def header? : Action → Option (String × String)
  | .header name value => some (name, value)
  | _ => none

/-- The line that is added. -/
def line? : Action → Option Bytes
  | .line data => some data
  | _ => none

end Action

/-- The response after an action. -/
def act (r : Response) : Action → Response
  | .header name value => r.addHeader name value
  | .line data => r.addLine data
  | .write _ => r

/-- The response after actions, one after another. -/
def after (r : Response) (actions : List Action) : Response := actions.foldl act r

/-- What comes of the writes among actions: whether all was taken, and the sink. -/
def reports (r : Response) : List Action → List (Bool × Sink)
  | [] => []
  | .write sink :: rest => r.writeTo sink :: r.reports rest
  | action :: rest => (r.act action).reports rest

/-- What is written of headers and lines: the status line, a line for each header, an empty line,
and the lines. -/
def text (headers : List (String × String)) (lines : List Bytes) : Bytes :=
  Bytes.ofString "HTTP/1.1 200 OK\n" ++
    headers.flatMap (fun h => Bytes.ofString (h.1 ++ ": " ++ h.2 ++ "\n")) ++ [10] ++
    lines.flatMap (· ++ [10])

/-- The headers and the lines of a response are those added, whatever is written in between. -/
theorem after_eq (r : Response) (actions : List Action) :
    r.after actions = { r with
      headers := r.headers ++ actions.filterMap Action.header?
      body := r.body ++ (actions.filterMap Action.line?).flatMap (· ++ [10]) } := by
  induction actions generalizing r with
  | nil => simp [after]
  | cons action actions ih =>
    have hstep : r.after (action :: actions) = (r.act action).after actions := rfl
    rw [hstep, ih, List.filterMap_cons, List.filterMap_cons]
    cases action <;> simp [act, addHeader, addLine, Action.header?, Action.line?]

theorem bytes_after (actions : List Action) :
    (after {} actions).bytes =
      text (actions.filterMap Action.header?) (actions.filterMap Action.line?) := by
  have hstatus : statusLine {} = Bytes.ofString "HTTP/1.1 200 OK\n" := rfl
  rw [after_eq, bytes_eq, text, List.flatMap_def]
  rfl

theorem reports_append (r : Response) (before later : List Action) :
    r.reports (before ++ later) = r.reports before ++ (r.after before).reports later := by
  induction before generalizing r with
  | nil => rfl
  | cons action before ih =>
    cases action with
    | header => exact ih _
    | line => exact ih _
    | write sink => exact congrArg (_ :: ·) (ih r)

/-- Actions that add the same headers and the same lines, each in order, make the same response. -/
theorem after_congr {actions actions' : List Action}
    (hh : actions'.filterMap Action.header? = actions.filterMap Action.header?)
    (hl : actions'.filterMap Action.line? = actions.filterMap Action.line?) :
    after {} actions' = after {} actions := by
  rw [after_eq, after_eq, hh, hl]

/-- **What comes of a write.**  The text of a new response is made of the headers and of the lines
that were added, however the two were mixed, and whatever was written before.  A sink with room for
`n` bytes takes the first `n` bytes of it, and all of it exactly if it is no longer than that; a
sink without a limit takes it as it is.  What is written later is the same as without this write. -/
theorem report_of_write (before later : List Action) (sink : Sink) :
    let written := text (before.filterMap Action.header?) (before.filterMap Action.line?)
    ∃ (report : Bool × Sink) (others : List (Bool × Sink)),
      (∀ n, sink.room = some n →
        report.2.taken = sink.taken ++ written.take (min n written.length) ∧
          (report.1 = false ↔ n < written.length)) ∧
      (sink.room = none → report.2.taken = sink.taken ++ written ∧ report.1 = true) ∧
      ∀ before', before'.filterMap Action.header? = before.filterMap Action.header? →
        before'.filterMap Action.line? = before.filterMap Action.line? →
        reports {} (before' ++ .write sink :: later) = reports {} before' ++ report :: others ∧
          reports {} (before' ++ later) = reports {} before' ++ others := by
  intro written
  have hreport : (after {} before).writeTo sink = sink.write written := by
    rw [writeTo_eq, bytes_after]
  refine ⟨(after {} before).writeTo sink, (after {} before).reports later, ?_, ?_, ?_⟩
  · intro n hn
    obtain ⟨_, taken⟩ := sink
    subst hn
    rw [hreport]
    exact ⟨Sink.taken_write_some n taken written, Sink.write_some_eq_false_iff⟩
  · intro hn
    obtain ⟨_, taken⟩ := sink
    subst hn
    rw [hreport]
    exact ⟨rfl, rfl⟩
  · intro before' hh hl
    rw [reports_append, reports_append, after_congr hh hl]
    exact ⟨rfl, rfl⟩

example : reports {} [.line [0x61], .write ⟨some 18, []⟩, .header "A" "b", .write ⟨none, []⟩] =
    [(false, ⟨some 0, Bytes.ofString "HTTP/1.1 200 OK\n\na"⟩),
      (true, ⟨none, Bytes.ofString "HTTP/1.1 200 OK\nA: b\n\na\n"⟩)] := by decide

end Response

end FormReply
