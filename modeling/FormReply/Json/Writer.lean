import FormReply.Json.Value
import FormReply.Json.Fragment

/-!
# Writing JSON

A value is written on one line in printable ASCII, with a space after every comma and every colon.
A string is cut into runs: a character with an escape of its own stands alone, and what lies
between two of those is a fragment.

* `write_arr`, `write_obj`: the written items and members, joined by a comma and a space.
-/

namespace FormReply.Json

/-- The escape of a character that JSON never takes literally: a quote, a backslash, or a control
below the space. -/
def shortEscape? (c : Char) : Option Bytes :=
  match c with
  | '"' => some (Bytes.ofString "\\\"")
  | '\\' => some (Bytes.ofString "\\\\")
  | '\x08' => some (Bytes.ofString "\\b")
  | '\x0c' => some (Bytes.ofString "\\f")
  | '\n' => some (Bytes.ofString "\\n")
  | '\r' => some (Bytes.ofString "\\r")
  | '\t' => some (Bytes.ofString "\\t")
  | c => if c.toNat < 0x20 then some (escapeUnit c.toNat) else none

/-- Two neighbours belong to one fragment. -/
def joins (a b : Char) : Bool := (shortEscape? a).isNone && (shortEscape? b).isNone

/-- The bytes of a run: the escape of the character it consists of, or a fragment. -/
def writeRun (run : List Char) : Bytes :=
  match run with
  | [c] =>
    match shortEscape? c with
    | some escape => escape
    | none => writeFragment [c]
  | run => writeFragment run

/-- The bytes of a text between the quotes of a JSON string. -/
def writeText (text : List Char) : Bytes := (text.splitBy joins).flatMap writeRun

/-- A JSON string. -/
def writeString (s : String) : Bytes := 0x22 :: writeText s.toList ++ [0x22]

/-- An integer in decimal. -/
def writeInt (n : Int) : Bytes := Bytes.ofString (toString n)

/-- A comma and a space. -/
def comma : Bytes := [0x2C, 0x20]

/-- A colon and a space. -/
def colon : Bytes := [0x3A, 0x20]

/-- The bytes of a value. -/
def Value.write : Value → Bytes
  | .null => Bytes.ofString "null"
  | .bool true => Bytes.ofString "true"
  | .bool false => Bytes.ofString "false"
  | .int n => writeInt n
  | .str s => writeString s
  | .arr items => 0x5B :: comma.intercalate (items.map fun v => v.write) ++ [0x5D]
  | .obj members =>
    0x7B :: comma.intercalate (members.map fun m => writeString m.1 ++ colon ++ m.2.write) ++ [0x7D]
termination_by v => sizeOf v
decreasing_by
  · rename_i h
    have := List.sizeOf_lt_of_mem h
    simp; omega
  · rename_i h
    have := List.sizeOf_lt_of_mem h
    have : sizeOf m.2 < sizeOf m := by cases m; simp only [Prod.mk.sizeOf_spec]; omega
    simp; omega

end FormReply.Json
