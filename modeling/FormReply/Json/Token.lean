import FormReply.Json.Value

/-!
# JSON tokens

A JSON text is cut into tokens: marks, words, integers and strings.  In a string, `\u` escapes are
UTF-16 units, which are put together once the string has been read: a high and a low surrogate in
a row are one character, and a surrogate on its own is refused.

* `stringUnits?`: reads a string up to its closing quote;
* `joinUnits?`: the characters of what was read;
* `tokens?`: the tokens of a text.
-/

namespace FormReply.Json

/-- A token. -/
inductive Token where
  | openArr
  | closeArr
  | openObj
  | closeObj
  | comma
  | colon
  | null
  | bool (b : Bool)
  | int (n : Int)
  | str (s : String)
deriving DecidableEq, Repr

/-! ### Strings -/

/-- What a string is made of. -/
inductive StringUnit where
  | literal (c : Char)
  /-- A UTF-16 unit behind `\u`. -/
  | escaped (u : Nat)
deriving DecidableEq, Repr

/-- The value of a hexadecimal digit of either case. -/
def digitValue? (c : Char) : Option Nat :=
  if '0' ≤ c ∧ c ≤ '9' then some (c.toNat - 0x30)
  else if 'a' ≤ c ∧ c ≤ 'f' then some (c.toNat - 0x57)
  else if 'A' ≤ c ∧ c ≤ 'F' then some (c.toNat - 0x37)
  else none

/-- The unit that four hexadecimal digits stand for. -/
def unit? (a b c d : Char) : Option Nat := do
  let a ← digitValue? a
  let b ← digitValue? b
  let c ← digitValue? c
  let d ← digitValue? d
  return ((a * 16 + b) * 16 + c) * 16 + d

/-- The character that an escape of one character stands for. -/
def simpleEscape? (c : Char) : Option Char :=
  match c with
  | '"' => some '"'
  | '\\' => some '\\'
  | '/' => some '/'
  | 'b' => some '\x08'
  | 'f' => some '\x0c'
  | 'n' => some '\n'
  | 'r' => some '\r'
  | 't' => some '\t'
  | _ => none

/-- Reads a string up to its closing quote, behind the units in `out`, last one first, and gives
the rest. -/
def stringUnits? (out : List StringUnit) : List Char → Option (List StringUnit × List Char)
  | [] => none
  | '"' :: rest => some (out.reverse, rest)
  | '\\' :: 'u' :: a :: b :: c :: d :: rest =>
    match unit? a b c d with
    | some u => stringUnits? (.escaped u :: out) rest
    | none => none
  | '\\' :: c :: rest =>
    match simpleEscape? c with
    | some e => stringUnits? (.literal e :: out) rest
    | none => none
  | c :: rest =>
    if c.toNat < 0x20 ∨ c = '\\' then none else stringUnits? (.literal c :: out) rest

/-- The characters of what a string is made of, behind those in `out`, last one first. -/
def joinUnitsAfter? (out : List Char) : List StringUnit → Option (List Char)
  | [] => some out.reverse
  | .literal c :: rest => joinUnitsAfter? (c :: out) rest
  | .escaped high :: .escaped low :: rest =>
    if 0xD800 ≤ high ∧ high < 0xDC00 then
      if 0xDC00 ≤ low ∧ low < 0xE000 then
        let c := Char.ofNat (0x10000 + (high - 0xD800) * 0x400 + (low - 0xDC00))
        joinUnitsAfter? (c :: out) rest
      else none
    else if 0xDC00 ≤ high ∧ high < 0xE000 then none
    else joinUnitsAfter? (Char.ofNat high :: out) (.escaped low :: rest)
  | .escaped u :: rest =>
    if 0xD800 ≤ u ∧ u < 0xE000 then none else joinUnitsAfter? (Char.ofNat u :: out) rest

/-- The characters of what a string is made of. -/
def joinUnits? (units : List StringUnit) : Option (List Char) := joinUnitsAfter? [] units

theorem length_lt_of_stringUnits? {out units : List StringUnit} {s rest : List Char}
    (h : stringUnits? out s = some (units, rest)) : rest.length < s.length := by
  fun_induction stringUnits? out s with
  | case1 => simp at h
  | case2 => simp only [Option.some.injEq, Prod.mk.injEq] at h; obtain ⟨-, rfl⟩ := h; simp
  | case3 _ _ _ _ _ _ _ _ ih => have := ih h; simp only [List.length_cons]; omega
  | case4 => simp at h
  | case5 _ _ _ _ _ _ ih => have := ih h; simp only [List.length_cons]; omega
  | case6 => simp at h
  | case7 => simp at h
  | case8 _ _ _ _ _ _ _ ih => have := ih h; simp only [List.length_cons]; omega

/-! ### Integers and words -/

/-- The number that digits stand for.  It has at least one digit, and no zero before others. -/
def natural? (digits : List Char) : Option Nat :=
  match digits with
  | [] => none
  | '0' :: _ :: _ => none
  | digits => some (digits.foldl (fun n c => n * 10 + (c.toNat - 0x30)) 0)

/-- The integer that a sign and digits stand for. -/
def integer? (isNegative : Bool) (digits : List Char) : Option Int :=
  (natural? digits).map fun n => if isNegative then -(n : Int) else n

/-- The token of a word. -/
def word? (letters : List Char) : Option Token :=
  if letters = "null".toList then some .null
  else if letters = "true".toList then some (.bool true)
  else if letters = "false".toList then some (.bool false)
  else none

/-! ### Texts -/

/-- The character may stand between tokens. -/
def isBlank (c : Char) : Bool := c == ' ' || c == '\t' || c == '\n' || c == '\r'

/-- The token of a mark. -/
def mark? (c : Char) : Option Token :=
  match c with
  | '[' => some .openArr
  | ']' => some .closeArr
  | '{' => some .openObj
  | '}' => some .closeObj
  | ',' => some .comma
  | ':' => some .colon
  | _ => none

/-- Reads the token that begins with a character, and gives the rest. -/
def token? (c : Char) (rest : List Char) : Option (Token × List Char) :=
  match mark? c with
  | some t => some (t, rest)
  | none =>
    if c = '"' then do
      let (units, rest) ← stringUnits? [] rest
      let text ← joinUnits? units
      return (.str (String.ofList text), rest)
    else if c = '-' then do
      let n ← integer? true (rest.takeWhile Char.isDigit)
      return (.int n, rest.dropWhile Char.isDigit)
    else if c.isDigit then do
      let n ← integer? false (c :: rest.takeWhile Char.isDigit)
      return (.int n, rest.dropWhile Char.isDigit)
    else do
      let t ← word? (c :: rest.takeWhile Char.isAlpha)
      return (t, rest.dropWhile Char.isAlpha)

theorem length_le_of_token? {c : Char} {s rest : List Char} {t : Token}
    (h : token? c s = some (t, rest)) : rest.length ≤ s.length := by
  have hle := fun p : Char → Bool => (List.dropWhile_sublist p (l := s)).length_le
  unfold token? at h
  split at h
  · simp only [Option.some.injEq, Prod.mk.injEq] at h; obtain ⟨-, rfl⟩ := h; exact Nat.le_refl _
  · split at h
    · simp only [Option.bind_eq_bind, Option.bind_eq_some_iff, Option.pure_def, Option.some.injEq,
        Prod.mk.injEq, Prod.exists] at h
      obtain ⟨units, r, hu, text, -, -, rfl⟩ := h
      have := length_lt_of_stringUnits? hu
      omega
    · split at h
      · simp only [Option.bind_eq_bind, Option.bind_eq_some_iff, Option.pure_def, Option.some.injEq,
          Prod.mk.injEq] at h
        obtain ⟨n, -, -, rfl⟩ := h
        exact hle _
      · split at h
        · simp only [Option.bind_eq_bind, Option.bind_eq_some_iff, Option.pure_def,
            Option.some.injEq, Prod.mk.injEq] at h
          obtain ⟨n, -, -, rfl⟩ := h
          exact hle _
        · simp only [Option.bind_eq_bind, Option.bind_eq_some_iff, Option.pure_def,
            Option.some.injEq, Prod.mk.injEq] at h
          obtain ⟨n, -, -, rfl⟩ := h
          exact hle _

/-- The tokens of a text, behind those in `out`, last one first. -/
def tokensAfter? (out : List Token) (s : List Char) : Option (List Token) :=
  match s with
  | [] => some out.reverse
  | c :: rest =>
    if isBlank c then tokensAfter? out rest
    else
      match _h : token? c rest with
      | none => none
      | some (t, rest') => tokensAfter? (t :: out) rest'
termination_by s.length
decreasing_by
  · simp
  · have := length_le_of_token? _h
    simp; omega

/-- The tokens of a text. -/
def tokens? (s : List Char) : Option (List Token) := tokensAfter? [] s

end FormReply.Json
