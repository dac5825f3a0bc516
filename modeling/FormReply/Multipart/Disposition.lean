import FormReply.Text.Utf8

/-!
# Content dispositions

The value of a `Content-Disposition` header names the field of a part and, for a file, the file.
An attribute is searched for by its key alone: the key counts at the start of the value and behind
a blank or a `;`, and a place where it does not count makes a new start behind it.

* `Attribute.bytes?`: the bytes of an attribute;
* `Attribute.text?`: its text, if the bytes are well-formed.
-/

namespace FormReply.Multipart

/-- The attributes that a disposition is asked for. -/
inductive Attribute where
  | name
  | filename
deriving DecidableEq, Repr

namespace Attribute

/-- The key an attribute is searched for by. -/
def key : Attribute → Bytes
  | .name => Bytes.ofString "name"
  | .filename => Bytes.ofString "filename"

theorem key_ne_nil (a : Attribute) : a.key ≠ [] := by cases a <;> decide

/-- The byte is an ASCII blank: a tab, a line feed, a form feed, a carriage return or a space. -/
def isBlankByte (b : UInt8) : Bool := b == 9 || b == 10 || b == 12 || b == 13 || b == 32

/-- A key counts behind these bytes. -/
def countsAfter (before : Bytes) : Bool :=
  match before.getLast? with
  | none => true
  | some b => isBlankByte b || b == 0x3B

/-- Reads a value behind its opening quote.  It ends at the first quote that no backslash precedes;
a quote with one stands for a quote. -/
def quotedValue? (s : Bytes) : Option Bytes :=
  go [] s
where
  /-- Reads `s`, with the bytes of the value so far in `out`, last one first. -/
  go (out : Bytes) : Bytes → Option Bytes
    | [] => none
    | 0x22 :: _ => some out.reverse
    | 0x5C :: 0x22 :: rest => go (0x22 :: out) rest
    | b :: rest => go (b :: out) rest

/-- Reads the value behind a key. -/
def value? (s : Bytes) : Option Bytes :=
  match s.dropWhile isBlankByte with
  | 0x3D :: written =>
    match written.dropWhile isBlankByte with
    | 0x22 :: rest => quotedValue? rest
    | rest => some (rest.takeWhile fun b => b != 0x3B && b != 0x20)
  | _ => none

/-- The bytes of an attribute in the value of a disposition. -/
def bytes? (a : Attribute) (disposition : Bytes) : Option Bytes :=
  match _h : Bytes.breakOn? a.key disposition with
  | none => none
  | some (before, after) => if countsAfter before then value? after else a.bytes? after
termination_by disposition.length
decreasing_by exact Bytes.length_lt_of_breakOn? a.key_ne_nil _h

/-- The text of an attribute in the value of a disposition. -/
def text? (a : Attribute) (disposition : Bytes) : Option String :=
  (a.bytes? disposition).bind fun b => (Utf8.decode? b).map String.ofList

end Attribute

end FormReply.Multipart
