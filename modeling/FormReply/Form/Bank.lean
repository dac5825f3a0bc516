import FormReply.Form.Body

/-!
# Banks of forms

A bank holds a form under every label, all of them empty at first, and is changed one step at a
time.  Every step gives an answer.

* `Bank.apply_of_ne`: a label that a step does not name keeps its form.
-/

namespace FormReply

/-- A form under every label. -/
abbrev Bank := String → Form

namespace Bank

/-- The bank of empty forms. -/
def empty : Bank := fun _ => ∅

/-- The bank with another form under a label. -/
def set (b : Bank) (label : String) (f : Form) : Bank := fun l => if l = label then f else b l

/-- What is done to the form under a label. -/
inductive Action where
  | clear
  | insert (x : Field)
  | contains (name : String)
  | get (name : String)
  | size
  | fields
  /-- Reads the form from a query string. -/
  | query (keepBlank : Bool) (text : String)
  /-- Collects the form from fields. -/
  | collect (l : List Field)
  /-- Takes the form out from under another label and merges it. -/
  | merge (source : String)
  | copy (source : String)
  /-- Asks whether the form under another label is the same. -/
  | same (other : String)
deriving Repr

/-- What a step answers. -/
inductive Answer where
  | done
  | truth (b : Bool)
  /-- The value of a name, if the name is present. -/
  | value (v : Option (Option String))
  /-- The number of fields, and whether there are none. -/
  | size (n : Nat) (isEmpty : Bool)
  /-- The number of fields after a change. -/
  | count (n : Nat)
  | fields (l : List Field)
deriving DecidableEq, Repr

/-- A bank with a new form under a label, and its size as the answer. -/
def store (b : Bank) (label : String) (f : Form) : Answer × Bank :=
  (.count f.size, b.set label f)

/-- Does an action to the form under a label. -/
def apply (b : Bank) (label : String) (action : Action) : Answer × Bank :=
  match action with
  | .clear => (.done, b.set label ∅)
  | .insert x =>
    let (isNew, f) := (b label).insertIfNew x
    (.truth isNew, b.set label f)
  | .contains name => (.truth ((b label).contains name), b)
  | .get name => (.value ((b label).get? name), b)
  | .size => (.size (b label).size (b label).isEmpty, b)
  | .fields => (.fields (b label).fields, b)
  | .query keepBlank text => b.store label (Form.ofQuery keepBlank text)
  | .collect l => b.store label (Form.ofList l)
  | .merge source =>
    let taken := b.set source ∅
    taken.store label ((taken label).merge (b source))
  | .copy source => b.store label (b source)
  | .same other => (.truth (b label = b other), b)

/-- Does actions one after another, and gives for each its answer and the form under its label
afterwards. -/
def run (b : Bank) : List (String × Action) → List (Answer × Form)
  | [] => []
  | (label, action) :: rest =>
    let (answer, after) := b.apply label action
    (answer, after label) :: run after rest

@[simp] theorem set_self (b : Bank) (label : String) (f : Form) : b.set label f label = f := by
  simp [set]

theorem set_of_ne (b : Bank) {label l : String} (f : Form) (h : l ≠ label) :
    b.set label f l = b l := by simp [set, h]

/-- A label that a step does not name keeps its form. -/
theorem apply_of_ne (b : Bank) {label l : String} (action : Action) (h : l ≠ label)
    (hs : ∀ source, action = .merge source → l ≠ source) : (b.apply label action).2 l = b l := by
  cases action <;> simp [apply, store, set_of_ne, h]
  next source => rw [set_of_ne _ _ (hs source rfl)]

end Bank

end FormReply
