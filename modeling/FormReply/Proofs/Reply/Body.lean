import FormReply.Proofs.Reply.Limit

/-!
# Bodies on a stream

What is read as a body is what the stream holds, up to the announced length.  It is not read if it
is over the limit, or if the stream fails before all of it has come; of the two the limit counts
first.

* `sentBody`, `IsUnread`: the body that is meant, and why it is not read;
* `readBody_cases`, `readBody_eq_ok_iff`: **what is read as a body**, and when;
* `readBody_length`: an announced length that is right makes no difference.
-/

namespace FormReply

/-- The body that is meant: what the stream holds, up to the announced length. -/
def sentBody (length : Option Nat) (input : Input) : Bytes :=
  match length with
  | some n => input.pending.take n
  | none => input.pending

/-- The stream fails before the whole body has come. -/
inductive IsCut : Option Nat → Input → String → Prop where
  /-- The stream holds less than is announced. -/
  | announced {n : Nat} {input : Input} {reason : String} (h : input.pending.length < n)
      (hf : input.ending = .failure reason) : IsCut (some n) input reason
  /-- Without a length, the body goes up to the end of the stream. -/
  | unknown {input : Input} {reason : String} (hf : input.ending = .failure reason) :
      IsCut none input reason

/-- Why a body is not read: it is over the limit or, within the limit, cut short. -/
inductive IsUnread (limit length : Option Nat) (input : Input) : Refusal → Prop where
  | tooLong {m : Nat} (hm : limit = some m) (h : IsOver m length input) :
      IsUnread limit length input .bodyTooLong
  | cut {reason : String} (hwithin : ∀ m, limit = some m → ¬ IsOver m length input)
      (h : IsCut length input reason) : IsUnread limit length input (.read reason)

variable {limit length : Option Nat} {input : Input}

theorem not_isUnread_iff :
    (∀ e, ¬ IsUnread limit length input e) ↔
      (∀ m, limit = some m → ¬ IsOver m length input) ∧ ∀ reason, ¬ IsCut length input reason := by
  constructor
  · intro h
    have hwithin : ∀ m, limit = some m → ¬ IsOver m length input :=
      fun m hm hover => h _ (.tooLong hm hover)
    exact ⟨hwithin, fun reason hcut => h _ (.cut hwithin hcut)⟩
  · rintro ⟨hwithin, hcut⟩ e he
    cases he with
    | tooLong hm hover => exact hwithin _ hm hover
    | cut _ h => exact hcut _ h

/-! ### Without a limit -/

theorem Input.read_all (i : Input) :
    (i.read .all).1 =
      match i.ending with
      | .done => .ok i.pending
      | .failure reason => .error reason := by
  show (Input.read.readAll i).1 = _
  unfold Input.read.readAll
  cases i.ending <;> rfl

theorem readBody_none_fst {demand : Demand} (hd : bodyDemand length none = some demand) :
    (readBody length none input).1 = (input.read demand).1.mapError .read := by
  cases hr : input.read demand with
  | mk outcome rest =>
    cases outcome with
    | error reason =>
      rw [readBody_of_error hd hr]
      rfl
    | ok body =>
      rw [readBody_of_ok hd hr]
      rfl

theorem readBody_of_isCut {reason : String} (h : IsCut length input reason) :
    (readBody length none input).1 = .error (.read reason) := by
  cases h with
  | @announced n _ _ h hf =>
    have hdemand : bodyDemand (some n) none = some (.upTo n) := rfl
    rw [readBody_none_fst hdemand, Input.read_upTo_of_lt h, Input.read_all, hf]
    rfl
  | unknown hf =>
    have hdemand : bodyDemand none none = some .all := rfl
    rw [readBody_none_fst hdemand, Input.read_all, hf]
    rfl

theorem readBody_of_not_isCut (h : ∀ reason, ¬ IsCut length input reason) :
    (readBody length none input).1 = .ok (sentBody length input) := by
  cases length with
  | some n =>
    have hdemand : bodyDemand (some n) none = some (.upTo n) := rfl
    rw [readBody_none_fst hdemand, sentBody]
    by_cases hn : n ≤ input.pending.length
    · rw [Input.read_of_le hn]
      rfl
    · have hlt : input.pending.length < n := by omega
      rw [Input.read_upTo_of_lt hlt, Input.read_all, List.take_of_length_le (Nat.le_of_lt hlt)]
      cases he : input.ending with
      | done => rfl
      | failure reason => exact absurd (.announced hlt he) (h reason)
  | none =>
    have hdemand : bodyDemand none none = some .all := rfl
    rw [readBody_none_fst hdemand, sentBody, Input.read_all]
    cases he : input.ending with
    | done => rfl
    | failure reason => exact absurd (.unknown he) (h reason)

/-! ### With a limit or without -/

theorem readBody_of_within (h : ∀ m, limit = some m → ¬ IsOver m length input) :
    readBody length limit input = readBody length none input := by
  cases limit with
  | none => rfl
  | some m => exact readBody_of_not_isOver (h m rfl)

/-- **A body is read as it is meant**, unless there is a reason not to read it. -/
theorem readBody_cases (limit length : Option Nat) (input : Input) :
    (∃ e, IsUnread limit length input e ∧ (readBody length limit input).1 = .error e) ∨
      ((∀ e, ¬ IsUnread limit length input e) ∧
        (readBody length limit input).1 = .ok (sentBody length input)) := by
  by_cases hover : ∃ m, limit = some m ∧ IsOver m length input
  · obtain ⟨m, rfl, hm⟩ := hover
    exact Or.inl ⟨_, .tooLong rfl hm, readBody_of_isOver hm⟩
  have hwithin : ∀ m, limit = some m → ¬ IsOver m length input :=
    fun m hm h => hover ⟨m, hm, h⟩
  rw [readBody_of_within hwithin]
  by_cases hcut : ∃ reason, IsCut length input reason
  · obtain ⟨reason, h⟩ := hcut
    exact Or.inl ⟨_, .cut hwithin h, readBody_of_isCut h⟩
  · have hwhole : ∀ reason, ¬ IsCut length input reason := fun reason h => hcut ⟨reason, h⟩
    exact Or.inr ⟨not_isUnread_iff.2 ⟨hwithin, hwhole⟩, readBody_of_not_isCut hwhole⟩

theorem IsUnread.readBody_eq {e : Refusal} (h : IsUnread limit length input e) :
    (readBody length limit input).1 = .error e := by
  cases h with
  | tooLong hm h =>
    rw [hm]
    exact readBody_of_isOver h
  | cut hwithin h =>
    rw [readBody_of_within hwithin]
    exact readBody_of_isCut h

theorem readBody_eq_ok_iff {body : Bytes} :
    (readBody length limit input).1 = .ok body ↔
      (∀ e, ¬ IsUnread limit length input e) ∧ body = sentBody length input := by
  rcases readBody_cases limit length input with ⟨e, he, hr⟩ | ⟨hnone, hr⟩
  · rw [hr]
    exact iff_of_false (by simp) fun h => h.1 e he
  · rw [hr, Except.ok.injEq, eq_comm]
    exact (and_iff_right hnone).symm

/-! ### Announced and unknown lengths -/

/-- **An announced length that is right** makes no difference, whatever the limit is. -/
theorem readBody_length (limit : Option Nat) (body : Bytes) :
    (readBody (some body.length) limit ⟨body, .done⟩).1 =
      (readBody none limit ⟨body, .done⟩).1 := by
  have hover : ∀ m, IsOver m (some body.length) ⟨body, .done⟩ ↔ IsOver m none ⟨body, .done⟩ := by
    intro m
    constructor
    · intro h
      cases h with
      | announced h => exact .delivered h
    · intro h
      cases h with
      | delivered h => exact .announced h
  by_cases h : ∃ m, limit = some m ∧ IsOver m none ⟨body, .done⟩
  · obtain ⟨m, rfl, hm⟩ := h
    rw [readBody_of_isOver hm, readBody_of_isOver ((hover m).2 hm)]
  · have hwithin : ∀ m, limit = some m → ¬ IsOver m none ⟨body, .done⟩ :=
      fun m hm h' => h ⟨m, hm, h'⟩
    have hcut : ∀ length reason, ¬ IsCut length ⟨body, .done⟩ reason := by
      rintro length reason (⟨-, hf⟩ | ⟨hf⟩) <;> simp at hf
    rw [readBody_of_within hwithin,
      readBody_of_within fun m hm => mt (hover m).1 (hwithin m hm),
      readBody_of_not_isCut (hcut _), readBody_of_not_isCut (hcut _), sentBody, sentBody,
      List.take_length]

end FormReply
