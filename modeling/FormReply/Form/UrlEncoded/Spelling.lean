import FormReply.Form.UrlEncoded

/-!
# Spellings of URL-encoded texts

A form can be spelled in many ways: a character may stand for itself or be escaped, a space may be
a `+`, hexadecimal digits may have either case, and pairs may be separated by any number of `&`.

* `Spells`: the spellings of a name or a value;
* `SpellsForm`: the spellings of a list of pairs.
-/

namespace FormReply.UrlEncoded

/-- The hexadecimal digit of a number below sixteen, in lowercase or uppercase. -/
def hexChar (upper : Bool) (n : Nat) : Char :=
  Char.ofNat (if n < 10 then 0x30 + n else if upper then 0x37 + n else 0x57 + n)

/-- The spellings of bytes as escapes, with a choice of case for every digit. -/
inductive EscapesTo : Bytes → List Char → Prop where
  /-- No byte. -/
  | nil : EscapesTo [] []
  /-- One byte more. -/
  | cons (b : UInt8) (upperHigh upperLow : Bool) {bytes : Bytes} {text : List Char}
      (h : EscapesTo bytes text) :
      EscapesTo (b :: bytes)
        ('%' :: hexChar upperHigh (b.toNat / 16) :: hexChar upperLow (b.toNat % 16) :: text)

/-- The spellings of a text in which the characters of a class may stand for themselves. -/
inductive Spells (plain : Char → Prop) : List Char → List Char → Prop where
  /-- The empty text. -/
  | nil : Spells plain [] []
  /-- A character that stands for itself. -/
  | literal {c : Char} {text spelled : List Char} (hc : plain c) (h : Spells plain text spelled) :
      Spells plain (c :: text) (c :: spelled)
  /-- A space as a `+`. -/
  | plus {text spelled : List Char} (h : Spells plain text spelled) :
      Spells plain (' ' :: text) ('+' :: spelled)
  /-- A character as the escapes of its bytes. -/
  | escaped {c : Char} {text escape spelled : List Char}
      (hc : EscapesTo (String.utf8EncodeChar c) escape) (h : Spells plain text spelled) :
      Spells plain (c :: text) (escape ++ spelled)

/-- The characters that may stand for themselves in a value. -/
def IsPlainInValue (c : Char) : Prop := c ≠ '%' ∧ c ≠ '+' ∧ c ≠ '&'

/-- The characters that may stand for themselves in a name. -/
def IsPlainInName (c : Char) : Prop := IsPlainInValue c ∧ c ≠ '='

/-- The spellings of a pair of a name and a value. -/
def SpellsPair (pair : String × String) (spelled : List Char) : Prop :=
  ∃ name value, Spells IsPlainInName pair.1.toList name ∧
    Spells IsPlainInValue pair.2.toList value ∧ spelled = name ++ '=' :: value

/-- The spellings of a list of pairs. -/
inductive SpellsForm : List (String × String) → List Char → Prop where
  /-- No pair. -/
  | nil : SpellsForm [] []
  /-- A separator that separates nothing. -/
  | separator {pairs : List (String × String)} {spelled : List Char}
      (h : SpellsForm pairs spelled) : SpellsForm pairs ('&' :: spelled)
  /-- The last pair. -/
  | last {pair : String × String} {spelled : List Char} (h : SpellsPair pair spelled) :
      SpellsForm [pair] spelled
  /-- A pair before others. -/
  | cons {pair : String × String} {pairs : List (String × String)} {first spelled : List Char}
      (hf : SpellsPair pair first) (h : SpellsForm pairs spelled) :
      SpellsForm (pair :: pairs) (first ++ '&' :: spelled)

end FormReply.UrlEncoded
