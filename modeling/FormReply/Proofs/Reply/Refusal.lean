import FormReply.Proofs.Reply.Body
import Mathlib.Order.Minimal

/-!
# Refusals

A request is refused for a fault of its method or, if it posts a form, of its body.  The faults do
not exclude each other: where there are several, the order of the checks decides.

* `IsFault`, `Refusal.rank`: what is wrong with a request, and the order of the checks;
* `IsAnswerable`, `isAnswerable_iff`: nothing is wrong with it;
* `exists_outcome_of_isAnswerable`: such a request is answered;
* `outcome_handle_eq_error_iff`: **a request is refused** for the fault that is found first.
-/

namespace FormReply

/-- The order of the checks. -/
def Refusal.rank : Refusal → Nat
  | .method .tooLong => 1
  | .method .notText => 2
  | .missingMethod => 3
  | .bodyTooLong => 4
  | .read _ => 5
  | .form _ => 6

theorem Refusal.rank_pos (e : Refusal) : 0 < e.rank := by
  unfold rank
  split <;> decide

namespace Reply

/-- What is wrong with the method in an environment. -/
inductive IsMethodFault (env : Environment) : Refusal → Prop where
  | tooLong {b : Bytes} (hb : env Request.methodVariable = some b)
      (h : Request.maxMethodLength < b.length) : IsMethodFault env (.method .tooLong)
  | notText {b : Bytes} (hb : env Request.methodVariable = some b)
      (h : ∀ method : String, b ≠ Bytes.ofString method) : IsMethodFault env (.method .notText)
  | missing (h : env Request.methodVariable = none) : IsMethodFault env .missingMethod

/-- What is wrong with a body of an announced length. -/
inductive IsBodyFault (settings : Settings) (contentType : String) (length : Option Nat)
    (input : Input) : Refusal → Prop where
  | tooLong {m : Nat} (hm : settings.bodyLimit = some m) (h : IsOver m length input) :
      IsBodyFault settings contentType length input .bodyTooLong
  | cut {reason : String} (h : IsCut length input reason) :
      IsBodyFault settings contentType length input (.read reason)
  | form {e : FormError} (h : Form.ofBody contentType settings.keepBlankValues
      (sentBody length input) = .error e) :
      IsBodyFault settings contentType length input (.form e)

/-- What is wrong with a request; the body counts where a form is posted. -/
def IsFault (settings : Settings) (env : Environment) (input : Input) (e : Refusal) : Prop :=
  IsMethodFault env e ∨ IsPost env ∧
    IsBodyFault settings (Request.readLossy env "CONTENT_TYPE") (announcedLength env) input e

/-- Nothing is wrong with a request. -/
structure IsAnswerable (settings : Settings) (env : Environment) (input : Input) : Prop where
  /-- There is a method, and it is a text that is not too long. -/
  method : ∃ method, env Request.methodVariable = some (Bytes.ofString method) ∧
    (Bytes.ofString method).length ≤ Request.maxMethodLength
  /-- A body that is posted is within the limit. -/
  within : IsPost env → ∀ m, settings.bodyLimit = some m → ¬ IsOver m (announcedLength env) input
  /-- It comes as a whole. -/
  whole : IsPost env → ∀ reason, ¬ IsCut (announcedLength env) input reason
  /-- It holds a form. -/
  form : IsPost env → ∃ form, Form.ofBody (Request.readLossy env "CONTENT_TYPE")
    settings.keepBlankValues (sentBody (announcedLength env) input) = .ok form

variable {settings : Settings} {env : Environment} {request : Request} {input : Input}
  {e : Refusal}

/-! ### Requests without a fault -/

theorem IsAnswerable.not_isMethodFault (h : IsAnswerable settings env input) :
    ¬ IsMethodFault env e := by
  obtain ⟨method, hmethod, hle⟩ := h.method
  intro he
  cases he with
  | @tooLong b hb hlong =>
    rw [hmethod, Option.some.injEq] at hb
    subst hb
    omega
  | @notText b hb hno =>
    rw [hmethod, Option.some.injEq] at hb
    exact hno method hb.symm
  | missing hnone => simp [hmethod] at hnone

theorem IsAnswerable.not_isBodyFault (h : IsAnswerable settings env input) (hpost : IsPost env) :
    ¬ IsBodyFault settings (Request.readLossy env "CONTENT_TYPE") (announcedLength env) input
      e := by
  intro he
  cases he with
  | tooLong hm hover => exact h.within hpost _ hm hover
  | cut hcut => exact h.whole hpost _ hcut
  | form hform =>
    obtain ⟨form, hok⟩ := h.form hpost
    rw [hok] at hform
    exact absurd hform (by simp)

theorem exists_method_of_not_isMethodFault (h : ∀ e, ¬ IsMethodFault env e) :
    ∃ method, env Request.methodVariable = some (Bytes.ofString method) ∧
      (Bytes.ofString method).length ≤ Request.maxMethodLength := by
  cases hb : env Request.methodVariable with
  | none => exact absurd (.missing hb) (h _)
  | some b =>
    by_cases htext : ∃ method, b = Bytes.ofString method
    · obtain ⟨method, rfl⟩ := htext
      exact ⟨method, rfl, Nat.le_of_not_lt fun hlong => h _ (.tooLong hb hlong)⟩
    · exact absurd (.notText hb fun method hm => htext ⟨method, hm⟩) (h _)

/-- **Nothing is wrong** with a request that has no fault. -/
theorem isAnswerable_iff :
    IsAnswerable settings env input ↔ ∀ e, ¬ IsFault settings env input e := by
  constructor
  · rintro h e (he | ⟨hpost, he⟩)
    · exact h.not_isMethodFault he
    · exact h.not_isBodyFault hpost he
  · intro h
    have hbody : IsPost env → ∀ e, ¬ IsBodyFault settings (Request.readLossy env "CONTENT_TYPE")
        (announcedLength env) input e := fun hpost e he => h e (.inr ⟨hpost, he⟩)
    refine ⟨exists_method_of_not_isMethodFault fun e he => h e (.inl he),
      fun hpost m hm hover => hbody hpost _ (.tooLong hm hover),
      fun hpost reason hcut => hbody hpost _ (.cut hcut), fun hpost => ?_⟩
    cases hform : Form.ofBody (Request.readLossy env "CONTENT_TYPE") settings.keepBlankValues
        (sentBody (announcedLength env) input) with
    | ok form => exact ⟨form, rfl⟩
    | error e => exact absurd (.form hform) (hbody hpost _)

/-! ### The method -/

theorem outcome_handle_of_readMethod {b : Bytes} (hb : env Request.methodVariable = some b)
    {fault : MethodFault} (h : Request.readMethod b = .error fault) (elapsed : Nat) :
    (handle settings env elapsed input).outcome = .error (.method fault) := by
  rw [handle, Request.ofEnvironment_of_some hb, h]
  rfl

theorem outcome_handle_of_missing (h : env Request.methodVariable = none) (elapsed : Nat) :
    (handle settings env elapsed input).outcome = .error .missingMethod := by
  rw [handle, Request.ofEnvironment_of_none h]
  dsimp only [respond]
  rw [stamp_of_error rfl]

/-- **A fault of the method** refuses a request, if it is the first one. -/
theorem outcome_handle_of_isMethodFault (h : MinimalFor (IsMethodFault env) Refusal.rank e)
    (elapsed : Nat) : (handle settings env elapsed input).outcome = .error e := by
  cases h.prop with
  | tooLong hb hlong =>
    exact outcome_handle_of_readMethod hb (Request.readMethod_of_tooLong hlong) elapsed
  | @notText b hb hno =>
    have hle : ¬ Request.maxMethodLength < b.length := fun hlong =>
      h.not_prop_of_lt (by decide) (.tooLong hb hlong)
    exact outcome_handle_of_readMethod hb
      (Request.readMethod_of_notText (Nat.le_of_not_lt hle) hno) elapsed
  | missing hnone => exact outcome_handle_of_missing hnone elapsed

/-! ### The body -/

/-- **A fault of the body** refuses a posted form, if it is the first one. -/
theorem outcome_respondPost_of_isBodyFault {contentType : String} {length : Option Nat}
    (hc : request.contentType = contentType) (hl : request.contentLength = length)
    (h : MinimalFor (IsBodyFault settings contentType length input) Refusal.rank e) :
    (respondPost settings request input).outcome = .error e := by
  rw [outcome_respondPost, hl]
  cases h.prop with
  | tooLong hm hover =>
    rw [(IsUnread.tooLong hm hover).readBody_eq]
    rfl
  | @cut reason hcut =>
    have hrank : Refusal.bodyTooLong.rank < (Refusal.read reason).rank := by simp [Refusal.rank]
    have hwithin : ∀ m, settings.bodyLimit = some m → ¬ IsOver m length input :=
      fun m hm hover => h.not_prop_of_lt hrank (.tooLong hm hover)
    rw [(IsUnread.cut hwithin hcut).readBody_eq]
    rfl
  | @form e hform =>
    -- Nothing else is wrong, so the body is read as it is meant.
    have hover : Refusal.bodyTooLong.rank < (Refusal.form e).rank := by simp [Refusal.rank]
    have hcut : ∀ reason, (Refusal.read reason).rank < (Refusal.form e).rank := by
      simp [Refusal.rank]
    have hread : ∀ e, ¬ IsUnread settings.bodyLimit length input e := not_isUnread_iff.2
      ⟨fun m hm h' => h.not_prop_of_lt hover (.tooLong hm h'),
        fun reason h' => h.not_prop_of_lt (hcut reason) (.cut h')⟩
    rw [readBody_eq_ok_iff.2 ⟨hread, rfl⟩]
    dsimp only [Except.bind]
    rw [bodyOutcome, postedForm, hc, hform]
    rfl

/-! ### Requests -/

/-- The fault that is found first refuses a request. -/
theorem outcome_handle_of_first (h : MinimalFor (IsFault settings env input) Refusal.rank e)
    (elapsed : Nat) : (handle settings env elapsed input).outcome = .error e := by
  rcases h.prop with he | ⟨hpost, he⟩
  · refine outcome_handle_of_isMethodFault ⟨he, fun e' he' => ?_⟩ elapsed
    exact h.le_of_le (Or.inl he')
  · have hfirst : (respondPost settings (postRequest env) input).outcome = .error e := by
      refine outcome_respondPost_of_isBodyFault (contentType_postRequest env)
        (contentLength_postRequest env) ⟨he, fun e' he' => ?_⟩
      exact h.le_of_le (Or.inr ⟨hpost, he'⟩)
    rw [handle_of_post hpost, stamp_of_error hfirst]
    exact hfirst

theorem exists_outcome_stamp_of_ok {reply : Reply} {response : Response}
    (h : reply.outcome = .ok response) (settings : Settings) (elapsed : Nat) :
    ∃ response', (reply.stamp settings elapsed).outcome = .ok response' := by
  unfold stamp
  split
  · exact ⟨_, by rw [h]; rfl⟩
  · exact ⟨_, h⟩

/-- A request with which nothing is wrong is answered. -/
theorem exists_outcome_of_isAnswerable (h : IsAnswerable settings env input) (elapsed : Nat) :
    ∃ response, (handle settings env elapsed input).outcome = .ok response := by
  obtain ⟨method, hmethod, hle⟩ := h.method
  by_cases hpost : IsPost env
  · have hread := not_isUnread_iff.2 ⟨h.within hpost, h.whole hpost⟩
    obtain ⟨form, hform⟩ := h.form hpost
    have hposted : postedForm settings (postRequest env) (sentBody (announcedLength env) input) =
        .ok (combine settings (postRequest env) form) := by
      rw [postedForm, contentType_postRequest, hform]
      rfl
    have houtcome := outcome_respondPost settings (postRequest env) input
    rw [contentLength_postRequest, readBody_eq_ok_iff.2 ⟨hread, rfl⟩] at houtcome
    dsimp only [Except.bind] at houtcome
    rw [bodyOutcome_of_ok hposted] at houtcome
    rw [handle_of_post hpost]
    exact exists_outcome_stamp_of_ok houtcome settings elapsed
  · obtain ⟨log, hhandle⟩ := handle_of_not_post hpost settings elapsed input
    rw [hhandle]
    exact exists_outcome_stamp_of_ok (plainOutcome_of_method hmethod hle) settings elapsed

/-- **A request is refused** for the fault that is found first. -/
theorem outcome_handle_eq_error_iff {elapsed : Nat} :
    (handle settings env elapsed input).outcome = .error e ↔
      MinimalFor (IsFault settings env input) Refusal.rank e := by
  refine ⟨fun h => ?_, fun h => outcome_handle_of_first h elapsed⟩
  by_cases hfault : ∃ e, IsFault settings env input e
  · -- Some fault is found first, so it is the one that the request is refused for.
    obtain ⟨first, hfirst⟩ :=
      exists_minimalFor_of_wellFoundedLT (IsFault settings env input) Refusal.rank hfault
    have hsame := outcome_handle_of_first hfirst elapsed
    rw [h, Except.error.injEq] at hsame
    exact hsame ▸ hfirst
  · obtain ⟨response, hok⟩ := exists_outcome_of_isAnswerable
      (isAnswerable_iff.2 fun e he => hfault ⟨e, he⟩) elapsed
    rw [h] at hok
    exact absurd hok (by simp)

end Reply

end FormReply
