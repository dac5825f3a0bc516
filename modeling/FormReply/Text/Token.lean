/-!
# Tokens

The characters of which the names in a network message are made: ASCII letters and digits, and
fifteen marks.
-/

namespace FormReply.Text

/-- The marks that may stand in a token. -/
def tokenMarks : List Char :=
  ['!', '#', '$', '%', '&', '\'', '*', '+', '-', '.', '^', '_', '\x60', '|', '~']

/-- The character may stand in a token. -/
def isToken (c : Char) : Bool := c.isAlphanum || tokenMarks.contains c

/-- The byte is the code of a character that may stand in a token. -/
def isTokenByte (b : UInt8) : Bool := isToken (Char.ofNat b.toNat)

end FormReply.Text
