import FormReply.Proofs.Reply.Cases

/-!
# The limit for bodies

A limit refuses bodies and does nothing else: a body that is not refused for its length is read and
answered as it would be without a limit.

* `readBody_of_not_isOver`, `readBody_of_isOver`: what a limit does to a read;
* `message_eq_iff`: the wording of this refusal is that of no other;
* `limit_is_gate`: **a limit changes an answer** to this refusal or not at all.
-/

namespace FormReply

/-- The settings with another limit, where zero stands for none. -/
def Settings.withLimit (settings : Settings) (m : Nat) : Settings :=
  { settings with maxBodyLength := m }

theorem Settings.bodyLimit_withLimit (settings : Settings) {m : Nat} (hm : 0 < m) :
    (settings.withLimit m).bodyLimit = some m := bodyLimit_eq_some_iff.2 ⟨rfl, hm⟩

theorem Settings.bodyLimit_withLimit_zero (settings : Settings) :
    (settings.withLimit 0).bodyLimit = none := bodyLimit_eq_none_iff.2 rfl

/-! ### Reading a body -/

/-- The body is over the limit: by its announced length or, without one, by what the stream delivers
before it ends or fails. -/
inductive IsOver (m : Nat) : Option Nat → Input → Prop where
  /-- The announced length is over the limit. -/
  | announced {n : Nat} {input : Input} (h : m < n) : IsOver m (some n) input
  /-- Without a length, the stream delivers more. -/
  | delivered {input : Input} (h : m < input.pending.length) : IsOver m none input

theorem IsOver.of_le {m m' : Nat} {length : Option Nat} {input : Input}
    (h : IsOver m' length input) (hm : m ≤ m') : IsOver m length input := by
  cases h with
  | announced h => exact .announced (Nat.lt_of_le_of_lt hm h)
  | delivered h => exact .delivered (Nat.lt_of_le_of_lt hm h)

variable {m : Nat} {length : Option Nat} {input : Input}

theorem Input.read_upTo_of_lt {i : Input} {n : Nat} (h : i.pending.length < n) :
    i.read (.upTo n) = i.read .all := if_neg (by omega)

theorem Input.length_of_read_all {i rest : Input} {b : Bytes} (h : i.read .all = (.ok b, rest)) :
    b.length ≤ i.pending.length := by
  rw [Input.pending_of_read h, List.length_append]
  omega

theorem readBody_of_ok_of_le {demand : Demand} {body : Bytes} {rest : Input}
    (hd : bodyDemand length (some m) = some demand) (hr : input.read demand = (.ok body, rest))
    (hbody : body.length ≤ m) : readBody length (some m) input = (.ok body, rest) := by
  have hwithin : ¬ (some m).any (· < body.length) = true := by
    simp only [Option.any_some, decide_eq_true_eq]
    omega
  rw [readBody_of_ok hd hr, if_neg hwithin]

/-- **Within the limit** a body is read as without one, the failure of the stream included. -/
theorem readBody_of_not_isOver (h : ¬ IsOver m length input) :
    readBody length (some m) input = readBody length none input := by
  cases length with
  | some n =>
    have hn : ¬ m < n := fun hn => h (.announced hn)
    have hlimited : bodyDemand (some n) (some m) = some (.upTo n) := if_neg hn
    have hfree : bodyDemand (some n) none = some (.upTo n) := rfl
    cases hr : input.read (.upTo n) with
    | mk outcome rest =>
      cases outcome with
      | error reason => rw [readBody_of_error hlimited hr, readBody_of_error hfree hr]
      | ok body =>
        -- A read gives no more than it is asked for, so the limit is not passed afterwards either.
        obtain ⟨taken, htaken, hlength⟩ := input.exists_taken n
        rw [hr, Input.pending_of_read hr] at htaken
        have hbody : body.length ≤ n := by
          rw [List.append_cancel_right htaken]
          exact hlength
        rw [readBody_of_ok_of_le hlimited hr (by omega), readBody_of_ok hfree hr]
        rfl
  | none =>
    have hpending : ¬ m < input.pending.length := fun hp => h (.delivered hp)
    have hlimited : bodyDemand none (some m) = some (.upTo (m + 1)) := rfl
    have hfree : bodyDemand none none = some .all := rfl
    have hsame := Input.read_upTo_of_lt (i := input) (n := m + 1) (by omega)
    cases hr : input.read .all with
    | mk outcome rest =>
      rw [hr] at hsame
      cases outcome with
      | error reason => rw [readBody_of_error hlimited hsame, readBody_of_error hfree hr]
      | ok body =>
        have hbody := Input.length_of_read_all hr
        rw [readBody_of_ok_of_le hlimited hsame (by omega), readBody_of_ok hfree hr]
        rfl

/-- **A body over the limit** is refused: unread by its announced length, and otherwise when one
byte beyond the limit has come. -/
theorem readBody_of_isOver (h : IsOver m length input) :
    (readBody length (some m) input).1 = .error .bodyTooLong := by
  cases h with
  | @announced n _ h =>
    have hdemand : bodyDemand (some n) (some m) = none := if_pos h
    rw [readBody_of_none hdemand]
  | delivered h =>
    have hpending : m + 1 ≤ input.pending.length := h
    have hover : (some m).any (· < (input.pending.take (m + 1)).length) = true := by
      rw [Option.any_some, List.length_take, decide_eq_true_eq]
      omega
    rw [readBody_of_ok rfl (Input.read_of_le hpending), if_pos hover]

theorem readBody_none_ne (length : Option Nat) (input : Input) :
    (readBody length none input).1 ≠ .error .bodyTooLong := by
  obtain ⟨demand, hdemand⟩ : ∃ demand, bodyDemand length none = some demand := by
    cases length with
    | some n => exact ⟨_, rfl⟩
    | none => exact ⟨_, rfl⟩
  cases hr : input.read demand with
  | mk outcome rest =>
    cases outcome with
    | error reason =>
      rw [readBody_of_error hdemand hr]
      simp
    | ok body =>
      rw [readBody_of_ok hdemand hr]
      simp

/-- **What a body takes** of the stream under a limit: nothing if the announced length is over it,
no more than an announced length within it, and one byte beyond the limit without a length. -/
theorem exists_taken_of_readBody (length : Option Nat) (m : Nat) (input : Input) :
    ∃ taken, input.pending = taken ++ (readBody length (some m) input).2.pending ∧
      (readBody length (some m) input).2.ending = input.ending ∧
      (∀ n, length = some n → taken.length ≤ n ∧ (m < n → taken = [])) ∧
      (length = none → taken.length ≤ m + 1) := by
  cases length with
  | none =>
    have hdemand : bodyDemand none (some m) = some (.upTo (m + 1)) := rfl
    rw [rest_readBody hdemand]
    obtain ⟨taken, htaken, hlength⟩ := input.exists_taken (m + 1)
    exact ⟨taken, htaken, Input.read_ending .., by simp, fun _ => hlength⟩
  | some n =>
    by_cases hn : m < n
    · have hdemand : bodyDemand (some n) (some m) = none := if_pos hn
      rw [readBody_of_none hdemand]
      exact ⟨[], rfl, rfl, fun _ _ => ⟨Nat.zero_le _, fun _ => rfl⟩, by simp⟩
    · have hdemand : bodyDemand (some n) (some m) = some (.upTo n) := if_neg hn
      rw [rest_readBody hdemand]
      obtain ⟨taken, htaken, hlength⟩ := input.exists_taken n
      refine ⟨taken, htaken, Input.read_ending .., fun k hk => ?_, by simp⟩
      obtain rfl := Option.some.inj hk
      exact ⟨hlength, fun hn' => absurd hn' hn⟩

/-! ### The refusal -/

theorem append_ne_of_not_isPrefix {p t : String} (h : ¬ p.toList <+: t.toList) (s : String) :
    p ++ s ≠ t := by
  rintro rfl
  exact h ⟨s.toList, String.toList_append.symm⟩

/-- The wording of a body over the limit is that of no other refusal. -/
theorem Refusal.message_eq_iff {e : Refusal} :
    e.message = "POST body: Maximum content length exceeded." ↔ e = .bodyTooLong := by
  constructor
  · intro h
    cases e with
    | bodyTooLong => rfl
    | missingMethod => exact absurd h (by decide +kernel)
    | method fault => cases fault <;> exact absurd h (by decide +kernel)
    | read reason =>
      have hm : (Refusal.read reason).message = "POST body read failed: " ++ reason := rfl
      rw [hm] at h
      exact absurd h (append_ne_of_not_isPrefix (by decide +kernel) reason)
    | form e =>
      cases e with
      | unsupportedContentType essence =>
        have hm : (Refusal.form (.unsupportedContentType essence)).message =
            "POST body: " ++ "Unsupported form content type: '" ++ (essence ++ "'") := by
          show "POST body: " ++ ("Unsupported form content type: '" ++ essence ++ "'") = _
          simp only [String.append_assoc]
        rw [hm] at h
        exact absurd h (append_ne_of_not_isPrefix (by decide +kernel) _)
      | multipart e =>
        have hm : (Refusal.form (.multipart e)).message =
            "POST body: " ++ "Multipart form decoding failed: " ++ e.message := by
          rw [String.append_assoc]
          rfl
        rw [hm] at h
        exact absurd h (append_ne_of_not_isPrefix (by decide +kernel) _)
  · rintro rfl
    rfl

namespace Reply

/-! ### Answers under a limit -/

/-- A posted form is answered from what the limit lets through. -/
theorem outcome_handle_withLimit {env : Environment} (h : IsPost env) {settings : Settings}
    (hdebug : settings.debug = false) (m elapsed : Nat) (input : Input) :
    (handle (settings.withLimit m) env elapsed input).outcome =
      (readBody (announcedLength env) (settings.withLimit m).bodyLimit input).1.bind
        (bodyOutcome settings (postRequest env)) := by
  have hstamp : (settings.withLimit m).debug = false := hdebug
  have hbody : bodyOutcome (settings.withLimit m) (postRequest env) =
      bodyOutcome settings (postRequest env) := bodyOutcome_congr rfl rfl rfl rfl
  rw [outcome_handle_of_post h hstamp, hbody]

theorem bodyOutcome_ne (settings : Settings) (request : Request) (body : Bytes) :
    bodyOutcome settings request body ≠ .error .bodyTooLong := by
  unfold bodyOutcome
  split <;> simp

/-- Without a limit no request is refused for its length. -/
theorem outcome_handle_withLimit_zero_ne {settings : Settings} (hdebug : settings.debug = false)
    (env : Environment) (elapsed : Nat) (input : Input) :
    (handle (settings.withLimit 0) env elapsed input).outcome ≠ .error .bodyTooLong := by
  by_cases hpost : IsPost env
  · rw [outcome_handle_withLimit hpost hdebug, settings.bodyLimit_withLimit_zero]
    have hread := readBody_none_ne (announcedLength env) input
    cases hr : (readBody (announcedLength env) none input).1 with
    | error e =>
      rw [hr, ne_eq, Except.error.injEq] at hread
      simpa only [Except.bind, ne_eq, Except.error.injEq] using hread
    | ok body =>
      simp only [Except.bind]
      exact bodyOutcome_ne settings (postRequest env) body
  · have hstamp : (settings.withLimit 0).debug = false := hdebug
    rw [outcome_handle_of_not_post hpost hstamp]
    intro h
    rcases plainOutcome_ne_error env h with h | ⟨fault, h⟩ <;> exact absurd h (by simp)

/-- **A limit changes nothing** about a request whose body is not over it. -/
theorem outcome_handle_of_not_isOver {settings : Settings} (hdebug : settings.debug = false)
    {m : Nat} (hm : 0 < m) {env : Environment} {input : Input}
    (h : ¬ (IsPost env ∧ IsOver m (announcedLength env) input)) (elapsed elapsed' : Nat) :
    (handle (settings.withLimit m) env elapsed input).outcome =
      (handle (settings.withLimit 0) env elapsed' input).outcome := by
  by_cases hpost : IsPost env
  · have hover : ¬ IsOver m (announcedLength env) input := fun hover => h ⟨hpost, hover⟩
    rw [outcome_handle_withLimit hpost hdebug, outcome_handle_withLimit hpost hdebug,
      settings.bodyLimit_withLimit hm, settings.bodyLimit_withLimit_zero,
      readBody_of_not_isOver hover]
  · have hstamp : ∀ m, (settings.withLimit m).debug = false := fun _ => hdebug
    rw [outcome_handle_of_not_post hpost (hstamp m), outcome_handle_of_not_post hpost (hstamp 0)]

/-- **A limit refuses** exactly the posted bodies that are over it. -/
theorem outcome_handle_eq_bodyTooLong_iff {settings : Settings} (hdebug : settings.debug = false)
    {m : Nat} (hm : 0 < m) (env : Environment) (elapsed : Nat) (input : Input) :
    (handle (settings.withLimit m) env elapsed input).outcome = .error .bodyTooLong ↔
      IsPost env ∧ IsOver m (announcedLength env) input := by
  constructor
  · intro h
    by_contra hover
    rw [outcome_handle_of_not_isOver hdebug hm hover elapsed elapsed] at h
    exact outcome_handle_withLimit_zero_ne hdebug env elapsed input h
  · rintro ⟨hpost, hover⟩
    rw [outcome_handle_withLimit hpost hdebug, settings.bodyLimit_withLimit hm,
      readBody_of_isOver hover]
    rfl

theorem exists_taken_of_handle (settings : Settings) {m : Nat} (hm : 0 < m) (env : Environment)
    (elapsed : Nat) (input : Input) :
    ∃ taken, input.pending =
        taken ++ (handle (settings.withLimit m) env elapsed input).rest.pending ∧
      (handle (settings.withLimit m) env elapsed input).rest.ending = input.ending ∧
      (∀ n, announcedLength env = some n → taken.length ≤ n ∧ (m < n → taken = [])) ∧
      (announcedLength env = none → taken.length ≤ m + 1) := by
  by_cases hpost : IsPost env
  · rw [handle_of_post hpost, rest_stamp, rest_respondPost, settings.bodyLimit_withLimit hm,
      contentLength_postRequest]
    exact exists_taken_of_readBody (announcedLength env) m input
  · obtain ⟨log, hlog⟩ := handle_of_not_post hpost (settings.withLimit m) elapsed input
    rw [hlog, rest_stamp]
    exact ⟨[], rfl, rfl, fun _ _ => ⟨Nat.zero_le _, fun _ => rfl⟩, fun _ => Nat.zero_le _⟩

/-- **A limit is a gate.**  Under a limit a request is answered as without one, or refused for the
length of its body; and it is refused for that exactly if it posts a body that is over the limit.
No byte is taken of a body whose announced length is over the limit, no more than the announced
length of any other, and one byte beyond the limit without a length.  So a request that is answered
under a limit is answered in the same way under any higher limit, and without one. -/
theorem limit_is_gate {settings : Settings} (hdebug : settings.debug = false) {m : Nat}
    (hm : 0 < m) (env : Environment) (elapsed elapsed' : Nat) (input : Input) :
    let limited := handle (settings.withLimit m) env elapsed input
    let free := handle (settings.withLimit 0) env elapsed' input
    (limited.outcome = free.outcome ∨ limited.outcome = .error .bodyTooLong) ∧
      ((∃ e, limited.outcome = .error e ∧
          e.message = "POST body: Maximum content length exceeded.") ↔
        IsPost env ∧ IsOver m (announcedLength env) input) ∧
      (∃ taken, input.pending = taken ++ limited.rest.pending ∧
        limited.rest.ending = input.ending ∧
        (∀ n, announcedLength env = some n → taken.length ≤ n ∧ (m < n → taken = [])) ∧
        (announcedLength env = none → taken.length ≤ m + 1)) ∧
      ∀ m' response, m ≤ m' ∨ m' = 0 → limited.outcome = .ok response →
        (handle (settings.withLimit m') env elapsed' input).outcome = .ok response := by
  intro limited free
  have hfree : ∀ {m'}, 0 < m' → ¬ (IsPost env ∧ IsOver m' (announcedLength env) input) →
      ∀ t, (handle (settings.withLimit m') env t input).outcome = free.outcome := fun hm' h t =>
    outcome_handle_of_not_isOver hdebug hm' h t elapsed'
  refine ⟨?_, ?_, exists_taken_of_handle settings hm env elapsed input, ?_⟩
  · by_cases h : IsPost env ∧ IsOver m (announcedLength env) input
    · exact Or.inr ((outcome_handle_eq_bodyTooLong_iff hdebug hm env elapsed input).2 h)
    · exact Or.inl (hfree hm h elapsed)
  · rw [← outcome_handle_eq_bodyTooLong_iff hdebug hm env elapsed input]
    constructor
    · rintro ⟨e, he, hmessage⟩
      rw [he, Refusal.message_eq_iff.1 hmessage]
    · exact fun h => ⟨.bodyTooLong, h, rfl⟩
  · intro m' response hm' hresponse
    have hnot : ¬ (IsPost env ∧ IsOver m (announcedLength env) input) := by
      rw [← outcome_handle_eq_bodyTooLong_iff hdebug hm env elapsed input, hresponse]
      simp
    have hok : free.outcome = .ok response := by rw [← hfree hm hnot elapsed, hresponse]
    rcases hm' with hm' | rfl
    · have hnot' : ¬ (IsPost env ∧ IsOver m' (announcedLength env) input) :=
        fun h => hnot ⟨h.1, h.2.of_le hm'⟩
      rw [hfree (by omega) hnot' elapsed', hok]
    · exact hok

/-- A body without a usable length that is one byte over the limit, on a stream that fails behind
that byte: under the limit the failure is not met, without a limit it is. -/
theorem limit_is_gate_before_failure :
    let env := Environment.ofBlock (Bytes.ofString "REQUEST_METHOD=POST\x00CONTENT_LENGTH=-4\x00")
    let input : Input := ⟨Bytes.ofString "a=12", .failure "lost"⟩
    let settings : Settings := {}
    let limited := handle (settings.withLimit 3) env 0 input
    let free := handle (settings.withLimit 0) env 1 input
    settings.debug = false ∧ 0 < 3 ∧ free.outcome = .error (.read "lost") ∧
      (limited.outcome = free.outcome ∨ limited.outcome = .error .bodyTooLong) ∧
      ((∃ e, limited.outcome = .error e ∧
          e.message = "POST body: Maximum content length exceeded.") ↔
        IsPost env ∧ IsOver 3 (announcedLength env) input) ∧
      (∃ taken, input.pending = taken ++ limited.rest.pending ∧
        limited.rest.ending = input.ending ∧
        (∀ n, announcedLength env = some n → taken.length ≤ n ∧ (3 < n → taken = [])) ∧
        (announcedLength env = none → taken.length ≤ 3 + 1)) ∧
      ∀ m' response, 3 ≤ m' ∨ m' = 0 → limited.outcome = .ok response →
        (handle (settings.withLimit m') env 1 input).outcome = .ok response :=
  ⟨rfl, by decide, by decide +kernel, limit_is_gate rfl (by decide) _ 0 1 _⟩

end Reply

end FormReply
