import FormReply.Bytes
import FormReply.Text.Token

/-!
# Header blocks

A header block is a sequence of lines, each a name, a colon and a value, up to an empty line.  A
line ends with a line feed, which a carriage return may precede.  Nothing continues a line.

* `parse?`: the headers of a block, or nothing if a line does not fit;
* `get?`: the value that counts for a name, which is the last one.
-/

namespace FormReply.Multipart

/-- A header: a name and a value without the blanks around it. -/
structure Header where
  name : Bytes
  value : Bytes
deriving DecidableEq, Repr

namespace Header

/-- The greatest number of headers in a block. -/
def limit : Nat := 32

/-- The byte is a space or a tab. -/
def isBlankByte (b : UInt8) : Bool := b == 0x20 || b == 0x09

/-- The byte may stand in a value: anything but a control, tabs excepted. -/
def isValueByte (b : UInt8) : Bool := b == 0x09 || (0x20 ≤ b && b != 0x7F)

/-- What follows a line's end. -/
def afterLineEnd? (s : Bytes) : Option Bytes :=
  match s with
  | 13 :: 10 :: rest => some rest
  | 10 :: rest => some rest
  | _ => none

/-- The bytes without the blanks at their end. -/
def trimRight (s : Bytes) : Bytes := (s.reverse.dropWhile isBlankByte).reverse

theorem length_lt_of_afterLineEnd? {s rest : Bytes} (h : afterLineEnd? s = some rest) :
    rest.length < s.length := by
  unfold afterLineEnd? at h
  split at h
  · simp only [Option.some.injEq] at h; subst h; simp only [List.length_cons]; omega
  · simp only [Option.some.injEq] at h; subst h; simp
  · simp at h

/-- Reads one line: its header and the bytes behind its end. -/
def line? (s : Bytes) : Option (Header × Bytes) :=
  let name := s.takeWhile Text.isTokenByte
  match s.dropWhile Text.isTokenByte with
  | 0x3A :: written =>
    let value := written.dropWhile isBlankByte
    match afterLineEnd? (value.dropWhile isValueByte) with
    | some rest =>
      if name.isEmpty then none else some (⟨name, trimRight (value.takeWhile isValueByte)⟩, rest)
    | none => none
  | _ => none

theorem length_lt_of_line? {s rest : Bytes} {header : Header} (h : line? s = some (header, rest)) :
    rest.length < s.length := by
  have h₁ := (List.dropWhile_sublist Text.isTokenByte (l := s)).length_le
  unfold line? at h
  dsimp only at h
  split at h
  · next written hd =>
    have h₂ := (List.dropWhile_sublist isBlankByte (l := written)).length_le
    have h₃ := (List.dropWhile_sublist isValueByte (l := written.dropWhile isBlankByte)).length_le
    split at h
    · next hr =>
      have h₄ := length_lt_of_afterLineEnd? hr
      split at h
      · simp at h
      · simp only [Option.some.injEq, Prod.mk.injEq] at h
        obtain ⟨-, rfl⟩ := h
        rw [hd] at h₁
        simp at h₁; omega
    · simp at h
  · simp at h

/-- Reads the headers up to an empty line, behind those in `found`, last one first. -/
def parseAfter? (found : List Header) (s : Bytes) : Option (List Header) :=
  match afterLineEnd? s with
  | some _ => some found.reverse
  | none =>
    if limit ≤ found.length then none
    else
      match _h : line? s with
      | some (header, rest) => parseAfter? (header :: found) rest
      | none => none
termination_by s.length
decreasing_by exact length_lt_of_line? _h

/-- The headers of a block. -/
def parse? (s : Bytes) : Option (List Header) := parseAfter? [] s

/-- The lowercase code of an ASCII letter, and every other byte itself. -/
def lowerByte (b : UInt8) : UInt8 := if 0x41 ≤ b ∧ b ≤ 0x5A then b + 0x20 else b

/-- The value of the last header with the name, in any case of letters; `name` is in lowercase. -/
def get? (headers : List Header) (name : Bytes) : Option Bytes :=
  (headers.reverse.find? fun h => h.name.map lowerByte == name).map (·.value)

end Header

end FormReply.Multipart
