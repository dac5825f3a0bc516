import FormReply.Bytes

/-!
# Input streams

An input stream delivers its pending bytes and then ends or fails.  A read up to a limit does not
ask the stream again once the limit is used up.

* `read_of_le`: a read within the pending bytes takes exactly that many and never fails;
* `read_append`: what stands behind them does not matter to such a read.
-/

namespace FormReply

/-- What becomes of a stream behind its pending bytes. -/
inductive Ending where
  /-- It ends. -/
  | done
  /-- Every read fails. -/
  | failure (reason : String)
deriving DecidableEq, Repr

/-- A stream of bytes. -/
structure Input where
  pending : Bytes
  /-- What becomes of it then. -/
  ending : Ending := .done
deriving DecidableEq, Repr

/-- How much of a stream is asked for. -/
inductive Demand where
  | upTo (n : Nat)
  /-- All bytes up to the end. -/
  | all
deriving DecidableEq, Repr

namespace Input

/-- The stream with all of its bytes taken. -/
def drained (i : Input) : Input := { i with pending := [] }

/-- Reads as much as is asked for.  A read that fails has taken the bytes before the failure. -/
def read (i : Input) (d : Demand) : Except String Bytes × Input :=
  match d with
  | .upTo n =>
    if n ≤ i.pending.length then
      (.ok (i.pending.take n), { i with pending := i.pending.drop n })
    else readAll i
  | .all => readAll i
where
  readAll (i : Input) : Except String Bytes × Input :=
    match i.ending with
    | .done => (.ok i.pending, i.drained)
    | .failure reason => (.error reason, i.drained)

/-- **A read within the pending bytes** takes exactly that many and never fails. -/
theorem read_of_le {i : Input} {n : Nat} (h : n ≤ i.pending.length) :
    i.read (.upTo n) = (.ok (i.pending.take n), { i with pending := i.pending.drop n }) := by
  simp [read, h]

/-- What stands behind the bytes that are asked for does not matter. -/
theorem read_append (b : Bytes) (rest : Bytes) (ending : Ending) :
    Input.read ⟨b ++ rest, ending⟩ (.upTo b.length) = (.ok b, ⟨rest, ending⟩) := by
  rw [read_of_le (by simp)]
  simp

/-- A read takes bytes from the front of the stream. -/
theorem read_pending (i : Input) (d : Demand) :
    ∃ taken, i.pending = taken ++ (i.read d).2.pending := by
  have hall : ∃ taken, i.pending = taken ++ (read.readAll i).2.pending := by
    unfold read.readAll
    split <;> exact ⟨i.pending, by simp [drained]⟩
  unfold read
  split
  · split
    · exact ⟨_, (List.take_append_drop _ _).symm⟩
    · exact hall
  · exact hall

/-- A read does not change what becomes of the stream. -/
theorem read_ending (i : Input) (d : Demand) : (i.read d).2.ending = i.ending := by
  unfold read
  split
  · split
    · rfl
    · unfold read.readAll; split <;> rfl
  · unfold read.readAll; split <;> rfl

end Input

end FormReply
