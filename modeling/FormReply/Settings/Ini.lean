import FormReply.Text.Blank

/-!
# Settings texts

A settings text is read line by line.  A line is blank, a heading in brackets, or an assignment: a
key, and a value behind the first `=` or `:`.  `;` and `#` begin a comment anywhere in a line, and
blanks around every token are dropped.

* `entries`: the assignments of a text, each under the heading before it;
* `lookup`: the value of a key, which its last assignment decides (`lookup_append_self`,
  `lookup_append_of_ne`).
-/

namespace FormReply.Ini

/-- Why a line cannot be read; lines count from one. -/
inductive Fault where
  /-- A heading has no closing bracket. -/
  | unclosedHeading (line : Nat)
  | emptyKey (line : Nat)
deriving DecidableEq, Repr

/-- The wording of the fault. -/
def Fault.message : Fault → String
  | .unclosedHeading line =>
    "line " ++ toString line ++
      ": Found opening bracket for section name but no closing bracket"
  | .emptyKey line => "line " ++ toString line ++ ":0: Key cannot be empty"

/-- What a line says. -/
inductive Line where
  | blank
  /-- The following lines belong under this heading. -/
  | heading (name : String)
  /-- A key, with a value if there is a delimiter. -/
  | assignment (key : String) (value : Option String)
deriving DecidableEq, Repr

/-- The character begins a comment. -/
def isComment (c : Char) : Bool := c == ';' || c == '#'

/-- The character ends a key. -/
def isDelimiter (c : Char) : Bool := c == '=' || c == ':'

/-- The trimmed text as a string. -/
def token (text : List Char) : String := String.ofList (Text.trim text)

/-- Reads the heading behind an opening bracket: the text before the last closing one. -/
def readHeading (number : Nat) (text : List Char) : Except Fault Line :=
  match text.reverse.dropWhile (· ≠ ']') with
  | [] => .error (.unclosedHeading number)
  | _ :: name => .ok (.heading (token name.reverse))

/-- Reads an assignment. -/
def readAssignment (number : Nat) (text : List Char) : Except Fault Line :=
  let key := token (text.takeWhile fun c => !isDelimiter c)
  match text.dropWhile fun c => !isDelimiter c with
  | [] => .ok (.assignment key none)
  | _ :: value =>
    if key.isEmpty then .error (.emptyKey number)
    else .ok (.assignment key (some (token value)))

/-- Reads the line with a number. -/
def readLine (number : Nat) (text : List Char) : Except Fault Line :=
  match Text.trim ((Text.trim text).takeWhile fun c => !isComment c) with
  | [] => .ok .blank
  | '[' :: rest => readHeading number rest
  | text => readAssignment number text

/-- An assignment under its heading. -/
structure Entry where
  heading : String
  key : String
  /-- The value, absent without a delimiter. -/
  value : Option String
deriving DecidableEq, Repr

/-- The heading of the lines before the first one. -/
def firstHeading : String := "default"

/-- Assignments collected so far, last one first, and the heading that the next ones belong
under. -/
structure Collected where
  heading : String := firstHeading
  found : List Entry := []

/-- Takes a line into account. -/
def Collected.add (c : Collected) (line : Line) : Collected :=
  match line with
  | .blank => c
  | .heading name => { c with heading := name }
  | .assignment key value => { c with found := ⟨c.heading, key, value⟩ :: c.found }

/-- The assignments in lines, in order. -/
def collect (l : List Line) : List Entry := (l.foldl Collected.add {}).found.reverse

/-- The lines of a text. -/
def readLines (text : List Char) : Except Fault (List Line) :=
  ((text.splitOn '\n').zipIdx 1).mapM fun line => readLine line.2 line.1

/-- The assignments of a text, in order. -/
def entries (text : String) : Except Fault (List Entry) := (readLines text.toList).map collect

/-- The value of a key under a heading.  Its last assignment decides, also by having none. -/
def lookup (l : List Entry) (heading key : String) : Option String :=
  (l.reverse.find? fun e => e.heading == heading && e.key == key).bind (·.value)

/-- A later assignment overrides all earlier ones of its key. -/
theorem lookup_append_self (l : List Entry) (heading key : String) (value : Option String) :
    lookup (l ++ [⟨heading, key, value⟩]) heading key = value := by
  simp [lookup]

theorem lookup_append_of_ne (l : List Entry) {e : Entry} {heading key : String}
    (h : ¬ (e.heading = heading ∧ e.key = key)) :
    lookup (l ++ [e]) heading key = lookup l heading key := by
  have : (e.heading == heading && e.key == key) = false := by simpa using h
  simp [lookup, this]

end FormReply.Ini
