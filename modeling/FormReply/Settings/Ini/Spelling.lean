import FormReply.Settings.Ini

/-!
# Spellings of settings lines

A line of settings can be spelled in many ways: blanks may stand around every token, the delimiter
may be `=` or `:`, and a comment may follow.  A carriage return before the line end is a blank.

* `SpellsLine`: the spellings of a line;
* `SpellsText`: the spellings of lines, one behind the other.
-/

namespace FormReply.Ini

/-- Blanks within a line. -/
def IsPadding (text : List Char) : Prop := ∀ c ∈ text, Text.isBlank c ∧ c ≠ '\n'

instance (text : List Char) : Decidable (IsPadding text) :=
  List.decidableBAll _ text

/-- The character has a meaning of its own in a line of settings. -/
def isSpecial (c : Char) : Bool :=
  isComment c || isDelimiter c || c == '[' || c == ']' || c == '\n' || c == '\r'

/-- The text may be a heading, a key or a value. -/
def IsToken (text : List Char) : Prop := Text.IsTrimmed text ∧ ∀ c ∈ text, isSpecial c = false

instance (text : List Char) : Decidable (IsToken text) :=
  @instDecidableAnd _ _ inferInstance (List.decidableBAll _ text)

/-- The spellings of a line. -/
inductive SpellsLine : Line → List Char → Prop where
  /-- A line with nothing in it. -/
  | blank {pad : List Char} (hp : IsPadding pad) : SpellsLine .blank pad
  /-- A heading. -/
  | heading {p₁ p₂ name p₃ p₄ : List Char} (h₁ : IsPadding p₁) (h₂ : IsPadding p₂)
      (hn : IsToken name) (hne : name ≠ []) (h₃ : IsPadding p₃) (h₄ : IsPadding p₄) :
      SpellsLine (.heading (String.ofList name))
        (p₁ ++ '[' :: (p₂ ++ name ++ p₃ ++ ']' :: p₄))
  /-- A key with a value. -/
  | assignment {p₁ key p₂ p₃ value p₄ : List Char} {delimiter : Char} (h₁ : IsPadding p₁)
      (hk : IsToken key) (hne : key ≠ []) (h₂ : IsPadding p₂) (hd : isDelimiter delimiter)
      (h₃ : IsPadding p₃) (hv : IsToken value) (h₄ : IsPadding p₄) :
      SpellsLine (.assignment (String.ofList key) (some (String.ofList value)))
        (p₁ ++ key ++ p₂ ++ delimiter :: (p₃ ++ value ++ p₄))
  /-- A key without a value. -/
  | bareKey {p₁ key p₂ : List Char} (h₁ : IsPadding p₁) (hk : IsToken key) (hne : key ≠ [])
      (h₂ : IsPadding p₂) :
      SpellsLine (.assignment (String.ofList key) none) (p₁ ++ key ++ p₂)
  /-- A line with a comment behind it. -/
  | comment {line : Line} {text note : List Char} {mark : Char} (h : SpellsLine line text)
      (hm : isComment mark) (hn : '\n' ∉ note) : SpellsLine line (text ++ mark :: note)

/-- The spellings of lines, each with its line end, which the last one may lack. -/
inductive SpellsText : List Line → List Char → Prop where
  /-- No line. -/
  | nil : SpellsText [] []
  /-- The last line, without a line end. -/
  | last {line : Line} {text : List Char} (h : SpellsLine line text) : SpellsText [line] text
  /-- One line more. -/
  | cons {line : Line} {lines : List Line} {first text : List Char} (hf : SpellsLine line first)
      (h : SpellsText lines text) : SpellsText (line :: lines) (first ++ '\n' :: text)

end FormReply.Ini
