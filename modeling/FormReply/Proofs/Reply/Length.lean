import FormReply.Proofs.Reply.Body

/-!
# Announced lengths

A body is read up to its announced length or, without one, up to the end of the stream.  Where the
two are the same, they are answered alike: both are over the limit or none, and the same bytes are
read.

* `outcome_handle_update_length`: a posted body is answered from what its length lets through;
* `length_is_redundant`: **an announced length that is right** is answered like none.
-/

namespace FormReply.Reply

/-- A variable that is not set, or whose value is no usable length, announces none. -/
theorem announcedLength_eq_none {env : Environment}
    (h : ∀ b, env "CONTENT_LENGTH" = some b →
      Request.readLength? (String.ofList (Utf8.decodeLossy b)) = none) :
    announcedLength env = none := by
  rw [announcedLength, Request.readLossy]
  cases hv : env "CONTENT_LENGTH" with
  | none => rfl
  | some b => exact h b hv

/-- A posted body is answered from what its announced length lets through. -/
theorem outcome_handle_update_length {settings : Settings} (hdebug : settings.debug = false)
    {env : Environment} (hpost : IsPost env) (value : Option Bytes) (elapsed : Nat)
    (input : Input) :
    (handle settings (Function.update env "CONTENT_LENGTH" value) elapsed input).outcome =
      (readBody (announcedLength (Function.update env "CONTENT_LENGTH" value)) settings.bodyLimit
        input).1.bind (bodyOutcome settings (postRequest env)) := by
  have hname : "CONTENT_LENGTH" ≠ Request.methodVariable := by decide
  have hpost' := (isPost_update hname value).2 hpost
  have hbody : bodyOutcome settings (postRequest (Function.update env "CONTENT_LENGTH" value)) =
      bodyOutcome settings (postRequest env) :=
    bodyOutcome_congr rfl rfl (readLossy_update_of_ne env (by decide) value)
      (readLossy_update_of_ne env (by decide) value)
  rw [outcome_handle_of_post hpost' hdebug, hbody]

/-- **An announced length that is right** is answered like none.  On a stream that ends behind the
body, a `POST` with the numeral of the body's length, blanks around it, is answered or refused like
one whose length is not announced, or not usable, whatever the limit is. -/
theorem length_is_redundant {settings : Settings} (hdebug : settings.debug = false)
    {env : Environment} (hpost : IsPost env) {body : Bytes} (hbody : body.length < 2 ^ 32)
    {left right : String} (hl : ∀ c ∈ left.toList, Text.isBlank c)
    (hr : ∀ c ∈ right.toList, Text.isBlank c) {value : Option Bytes}
    (hvalue : ∀ b, value = some b →
      Request.readLength? (String.ofList (Utf8.decodeLossy b)) = none)
    (elapsed elapsed' : Nat) :
    let numeral := Bytes.ofString (left ++ toString body.length ++ right)
    (handle settings (Function.update env "CONTENT_LENGTH" (some numeral)) elapsed
        ⟨body, .done⟩).outcome =
      (handle settings (Function.update env "CONTENT_LENGTH" value) elapsed'
        ⟨body, .done⟩).outcome := by
  intro numeral
  have hknown : announcedLength (Function.update env "CONTENT_LENGTH" (some numeral)) =
      some body.length := announcedLength_of_pad hbody hl hr (Function.update_self ..)
  have hunknown : announcedLength (Function.update env "CONTENT_LENGTH" value) = none :=
    announcedLength_eq_none fun b hb => hvalue b (by rwa [Function.update_self] at hb)
  rw [outcome_handle_update_length hdebug hpost, outcome_handle_update_length hdebug hpost, hknown,
    hunknown, readBody_length]

/-- A body one byte over the limit, whose length is announced between a no-break space and a line
separator, and one whose length is announced by a negative number: both are refused as too long. -/
theorem length_is_redundant_over_limit :
    let env := Environment.ofBlock (Bytes.ofString "REQUEST_METHOD=POST\x00")
    let settings : Settings := { maxBodyLength := 3 }
    let body := Bytes.ofString "a=12"
    let value := some (Bytes.ofString "-4")
    let numeral := Bytes.ofString ("\u00A0" ++ toString body.length ++ "\u2028")
    settings.debug = false ∧ IsPost env ∧ body.length < 2 ^ 32 ∧
      (∀ c ∈ "\u00A0".toList, Text.isBlank c) ∧ (∀ c ∈ "\u2028".toList, Text.isBlank c) ∧
      (∀ b, value = some b →
        Request.readLength? (String.ofList (Utf8.decodeLossy b)) = none) ∧
      (handle settings (Function.update env "CONTENT_LENGTH" (some numeral)) 0
          ⟨body, .done⟩).outcome =
        (handle settings (Function.update env "CONTENT_LENGTH" value) 1
          ⟨body, .done⟩).outcome ∧
      (handle settings (Function.update env "CONTENT_LENGTH" value) 1
          ⟨body, .done⟩).outcome = .error .bodyTooLong := by
  intro env settings body value numeral
  have hpost : IsPost env := by decide +kernel
  have hlength : body.length < 2 ^ 32 := by decide +kernel
  have hl : ∀ c ∈ "\u00A0".toList, Text.isBlank c := List.forall_mem_singleton.2 (by decide)
  have hr : ∀ c ∈ "\u2028".toList, Text.isBlank c := List.forall_mem_singleton.2 (by decide)
  have hvalue : ∀ b, value = some b →
      Request.readLength? (String.ofList (Utf8.decodeLossy b)) = none := by
    intro b hb
    obtain rfl := Option.some.inj hb
    decide +kernel
  exact ⟨rfl, hpost, hlength, hl, hr, hvalue,
    length_is_redundant rfl hpost hlength hl hr hvalue 0 1, by decide +kernel⟩

end FormReply.Reply
