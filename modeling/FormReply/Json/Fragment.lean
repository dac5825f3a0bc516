import FormReply.Text.Utf8

/-!
# Fragments of JSON strings

A fragment is a stretch of text inside a JSON string.  It is written as pieces: a run of printable
ASCII is a range of the text's bytes, copied as it is; every other character is the escape of its
UTF-16 units.

* `pieces`: one pass over the text, which keeps where the run at hand began;
* `writeChar`: what a single character is written as.
-/

namespace FormReply.Json

/-- The character is printable ASCII. -/
def isPrintable (c : Char) : Bool := decide (0x20 ≤ c.toNat ∧ c.toNat ≤ 0x7E)

/-- The UTF-16 units of a character: itself, or a high and a low surrogate. -/
def utf16 (c : Char) : List Nat :=
  if c.toNat < 0x10000 then [c.toNat]
  else [0xD800 + (c.toNat - 0x10000) / 0x400, 0xDC00 + (c.toNat - 0x10000) % 0x400]

/-- The lowercase hexadecimal digit of a number below sixteen. -/
def hexDigit (n : Nat) : UInt8 := UInt8.ofNat (if n < 10 then 0x30 + n else 0x57 + n)

/-- The escape of a UTF-16 unit, with four hexadecimal digits. -/
def escapeUnit (u : Nat) : Bytes :=
  [0x5C, 0x75, hexDigit (u / 0x1000 % 16), hexDigit (u / 0x100 % 16), hexDigit (u / 0x10 % 16),
    hexDigit (u % 16)]

/-- A part of a written fragment. -/
inductive Piece where
  /-- The bytes of the text from `first` up to `last`, copied. -/
  | copied (first last : Nat)
  /-- The escape of one UTF-16 unit. -/
  | escaped (unit : Nat)
deriving DecidableEq, Repr

/-- The pieces of a text. -/
def pieces (text : List Char) : List Piece :=
  go [] 0 0 text
where
  /-- Goes through the characters from byte `pos` on.  The run at hand began at byte `first`, and
  `out` holds the pieces before it, last one first. -/
  go (out : List Piece) (first pos : Nat) : List Char → List Piece
    | [] => (.copied first pos :: out).reverse
    | c :: rest =>
      let next := pos + c.utf8Size
      if isPrintable c then go out first next rest
      else go (((utf16 c).map Piece.escaped).reverse ++ .copied first pos :: out) next next rest

/-- The bytes of a piece of the text whose bytes are `source`. -/
def Piece.write (source : ByteArray) : Piece → Bytes
  | .copied first last => (source.extract first last).data.toList
  | .escaped unit => escapeUnit unit

/-- The bytes a fragment is written as. -/
def writeFragment (text : List Char) : Bytes :=
  (pieces text).flatMap (Piece.write (String.ofList text).toByteArray)

/-- The bytes a single character is written as. -/
def writeChar (c : Char) : Bytes :=
  if isPrintable c then [UInt8.ofNat c.toNat] else (utf16 c).flatMap escapeUnit

/-! ### One pass -/

theorem pieces.go_eq (out : List Piece) (first pos : Nat) (text : List Char) :
    pieces.go out first pos text = out.reverse ++ pieces.go [] first pos text := by
  induction text generalizing out first pos with
  | nil => simp [pieces.go]
  | cons c rest ih =>
    unfold pieces.go
    dsimp only
    split
    · rw [ih]
    · rw [ih, ih (((utf16 c).map Piece.escaped).reverse ++ [Piece.copied first pos])]
      simp

@[simp] theorem pieces_nil : pieces [] = [.copied 0 0] := rfl

@[simp] theorem writeFragment_nil : writeFragment [] = [] := by
  simp [writeFragment, Piece.write]

end FormReply.Json
