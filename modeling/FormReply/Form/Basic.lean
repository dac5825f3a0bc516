/-!
# Forms

A form is a sequence of fields with distinct names, in which the first field of a name wins:
inserting a name that is present changes nothing.

* `nodup_names_concat`: a field whose name is missing may come last;
* `fields_insert`: an inserted field comes last, unless its name is taken;
* `ofList_append`: fields may be taken in one go or one batch after another.
-/

namespace FormReply

/-- A field of a form. -/
structure Field where
  name : String
  /-- The value, absent if the content was no text. -/
  value : Option String
deriving DecidableEq, Repr

/-- The fields of a form, in the order in which they came. -/
@[ext] structure Form where
  fields : List Field := []
  /-- No two fields have the same name. -/
  distinct : (fields.map (·.name)).Nodup := by decide
deriving DecidableEq, Repr

namespace Form

instance : EmptyCollection Form := ⟨{}⟩

instance : Inhabited Form := ⟨∅⟩

/-- The number of fields. -/
def size (f : Form) : Nat := f.fields.length

/-- The form has no field. -/
def isEmpty (f : Form) : Bool := f.fields.isEmpty

/-- A field has the name. -/
def contains (f : Form) (name : String) : Bool := f.fields.any (·.name == name)

/-- The value of the field with the name: `none` if there is no such field, `some none` if it has
no value. -/
def get? (f : Form) (name : String) : Option (Option String) :=
  (f.fields.find? (·.name == name)).map (·.value)

theorem contains_iff {f : Form} {name : String} :
    f.contains name = true ↔ name ∈ f.fields.map (·.name) := by
  simp [contains]

/-- A field whose name is missing may come last. -/
theorem nodup_names_concat {f : Form} {x : Field} (h : ¬ f.contains x.name = true) :
    ((f.fields ++ [x]).map (·.name)).Nodup := by
  rw [contains_iff] at h
  rw [List.map_append, List.map_singleton, List.nodup_append]
  refine ⟨f.distinct, by simp, ?_⟩
  rintro a ha b hb rfl
  exact h (by rw [List.mem_singleton.1 hb] at ha; exact ha)

/-- Appends a field, unless its name is present, and tells whether it did. -/
def insertIfNew (f : Form) (x : Field) : Bool × Form :=
  if h : f.contains x.name then (false, f)
  else (true, { fields := f.fields ++ [x], distinct := nodup_names_concat h })

/-- Appends a field, unless its name is present. -/
def insert (f : Form) (x : Field) : Form := (f.insertIfNew x).2

/-- Appends those of the fields whose names are not present by then. -/
def insertAll (f : Form) (l : List Field) : Form := l.foldl insert f

/-- The form of the fields, the first one of each name. -/
def ofList (l : List Field) : Form := insertAll ∅ l

/-- Appends the fields of `g` whose names are not present in `f`. -/
def merge (f g : Form) : Form := f.insertAll g.fields

/-! ### The fields after each operation -/

@[simp] theorem fields_empty : (∅ : Form).fields = [] := rfl

/-- A field is inserted exactly when its name is not present. -/
theorem insertIfNew_fst (f : Form) (x : Field) : (f.insertIfNew x).1 = !f.contains x.name := by
  unfold insertIfNew; split <;> simp_all

/-- **An inserted field comes last,** unless its name is taken. -/
theorem fields_insert (f : Form) (x : Field) :
    (f.insert x).fields = if f.contains x.name then f.fields else f.fields ++ [x] := by
  unfold insert insertIfNew; split <;> simp_all

@[simp] theorem insertAll_nil (f : Form) : f.insertAll [] = f := rfl

@[simp] theorem insertAll_cons (f : Form) (x : Field) (l : List Field) :
    f.insertAll (x :: l) = (f.insert x).insertAll l := rfl

theorem insertAll_append (f : Form) (l₁ l₂ : List Field) :
    f.insertAll (l₁ ++ l₂) = (f.insertAll l₁).insertAll l₂ := List.foldl_append

/-- Fields may be taken in one go or one batch after another. -/
theorem ofList_append (l₁ l₂ : List Field) : ofList (l₁ ++ l₂) = (ofList l₁).insertAll l₂ :=
  insertAll_append ∅ l₁ l₂

example : (ofList [⟨"a", some "1"⟩, ⟨"b", none⟩, ⟨"a", some "2"⟩]).fields =
    [⟨"a", some "1"⟩, ⟨"b", none⟩] := by decide

end Form

end FormReply
