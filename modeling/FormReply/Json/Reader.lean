import FormReply.Json.Token
import FormReply.Text.Utf8

/-!
# Reading JSON

The reader takes one token after another.  Its state is what it expects next, together with the
arrays and objects that are still open, innermost first.

* `State.step?`: one token;
* `read?`: the value of a JSON text, all of which is read.
-/

namespace FormReply.Json

/-- An array or object whose next value is awaited. -/
inductive Frame where
  /-- An array with these items before it, last one first. -/
  | items (done : List Value)
  /-- An object with these members before it, last one first, and the name of the value. -/
  | members (done : List (String × Value)) (name : String)

/-- What the reader expects. -/
inductive State where
  /-- A value. -/
  | value (stack : List Frame)
  /-- The first item of an array, or its end. -/
  | firstItem (stack : List Frame)
  /-- A comma behind an item, or the end of the array. -/
  | afterItem (done : List Value) (stack : List Frame)
  /-- The name of the first member of an object, or its end. -/
  | firstName (stack : List Frame)
  /-- The name of a further member. -/
  | nextName (done : List (String × Value)) (stack : List Frame)
  /-- The colon behind a name. -/
  | colon (done : List (String × Value)) (name : String) (stack : List Frame)
  /-- A comma behind a member, or the end of the object. -/
  | afterMember (done : List (String × Value)) (stack : List Frame)
  /-- Nothing: the value is complete. -/
  | finished (v : Value)

namespace State

/-- A value is complete where the innermost open array or object awaits one. -/
def complete (v : Value) (stack : List Frame) : State :=
  match stack with
  | [] => .finished v
  | .items done :: stack => .afterItem (v :: done) stack
  | .members done name :: stack => .afterMember ((name, v) :: done) stack

/-- The first token of a value. -/
def begin? (stack : List Frame) (t : Token) : Option State :=
  match t with
  | .null => some (complete .null stack)
  | .bool b => some (complete (.bool b) stack)
  | .int n => some (complete (.int n) stack)
  | .str s => some (complete (.str s) stack)
  | .openArr => some (.firstItem stack)
  | .openObj => some (.firstName stack)
  | _ => none

/-- One token. -/
def step? (state : State) (t : Token) : Option State :=
  match state, t with
  | .value stack, t => begin? stack t
  | .firstItem stack, .closeArr => some (complete (.arr []) stack)
  | .firstItem stack, t => begin? (.items [] :: stack) t
  | .afterItem done stack, .comma => some (.value (.items done :: stack))
  | .afterItem done stack, .closeArr => some (complete (.arr done.reverse) stack)
  | .firstName stack, .closeObj => some (complete (.obj []) stack)
  | .firstName stack, .str s => some (.colon [] s stack)
  | .nextName done stack, .str s => some (.colon done s stack)
  | .colon done name stack, .colon => some (.value (.members done name :: stack))
  | .afterMember done stack, .comma => some (.nextName done stack)
  | .afterMember done stack, .closeObj => some (complete (.obj done.reverse) stack)
  | _, _ => none

/-- Tokens, one after another. -/
def run? (state : State) (ts : List Token) : Option State := ts.foldlM step? state

/-- The value, if it is complete. -/
def value? : State → Option Value
  | .finished v => some v
  | _ => none

@[simp] theorem run?_nil (state : State) : state.run? [] = some state := rfl

@[simp] theorem run?_cons (state : State) (t : Token) (ts : List Token) :
    state.run? (t :: ts) = (state.step? t).bind fun s => s.run? ts := rfl

end State

/-- The value of a JSON text. -/
def readText? (text : List Char) : Option Value := do
  let ts ← tokens? text
  let state ← (State.value []).run? ts
  state.value?

/-- The value of the bytes of a JSON text. -/
def read? (b : Bytes) : Option Value := (Utf8.decode? b).bind readText?

end FormReply.Json
