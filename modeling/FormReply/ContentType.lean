import FormReply.Text.Blank
import FormReply.Text.Token

/-!
# Content types

A content type is read in two ways.  Its *essence*, the text before the first `;`, trimmed and in
lowercase, selects how a body is encoded.  Its *parameters* are read strictly: every byte of the
value has to fit the grammar, and spaces are welcome only before a parameter's name and behind a
quoted value.

* `encoding`: how a body of the content type is encoded;
* `boundary`: the value of the first parameter with that name, in any case of letters.
-/

namespace FormReply.ContentType

/-! ### Essence -/

/-- The text before the first `;`, trimmed and in lowercase. -/
def essence (contentType : String) : String :=
  String.ofList ((Text.trim (contentType.toList.takeWhile (· ≠ ';'))).map Char.toLower)

/-- How a form is encoded in a body. -/
inductive Encoding where
  /-- Pairs of names and values in one text. -/
  | urlEncoded
  /-- Parts between boundary lines. -/
  | multipart
  /-- An encoding of other data than forms. -/
  | unsupported (essence : String)
deriving DecidableEq, Repr

/-- The encoding that a content type announces.  An empty one announces URL-encoded text. -/
def encoding (contentType : String) : Encoding :=
  let e := essence contentType
  if e = "" ∨ e = "application/x-www-form-urlencoded" then .urlEncoded
  else if e = "multipart/form-data" then .multipart
  else .unsupported e

/-- The content type announces parts between boundary lines. -/
def isMultipart (contentType : String) : Bool := encoding contentType = .multipart

/-! ### Parameters -/

/-- A named value behind a content type. -/
structure Parameter where
  name : String
  value : String
deriving DecidableEq, Repr

/-- The character may stand between quotes. -/
def isQuotable (c : Char) : Bool := decide (0x1F < c.toNat ∧ c.toNat ≠ 0x7F)

/-- A value, and the text behind the `;` that follows it.  Without such a `;` the text ends here. -/
structure ValueRead where
  value : List Char
  /-- The text of the parameters to come. -/
  rest : Option (List Char)

/-- Reads a value without quotes.  It may be empty only at the end of the text. -/
def plainValue? (text : List Char) : Option ValueRead :=
  let value := text.takeWhile Text.isToken
  match text.dropWhile Text.isToken with
  | [] => some ⟨value, none⟩
  | ';' :: rest => if value.isEmpty then none else some ⟨value, some rest⟩
  | _ => none

/-- Reads a value behind its opening quote.  It has at least one character, so a quote that comes
first belongs to it. -/
def quotedValue? (text : List Char) : Option ValueRead :=
  match text with
  | [] => none
  | first :: more =>
    let inside := fun c => c ≠ '"' && isQuotable c
    match more.dropWhile inside with
    | '"' :: after =>
      let value := first :: more.takeWhile inside
      if isQuotable first then
        match after.dropWhile (· = ' ') with
        | [] => some ⟨value, none⟩
        | ';' :: rest => some ⟨value, some rest⟩
        | _ => none
      else none
    | _ => none

/-- Reads a value in either form. -/
def value? (text : List Char) : Option ValueRead :=
  match text with
  | '"' :: rest => quotedValue? rest
  | text => plainValue? text

theorem length_lt_of_plainValue? {text rest : List Char} {r : ValueRead}
    (h : plainValue? text = some r) (hr : r.rest = some rest) : rest.length < text.length := by
  have hle := (List.dropWhile_sublist (l := text) Text.isToken).length_le
  unfold plainValue? at h
  dsimp only at h
  split at h
  · simp only [Option.some.injEq] at h; subst h; simp at hr
  · next hd =>
    split at h
    · simp at h
    · simp only [Option.some.injEq] at h; subst h
      simp only [Option.some.injEq] at hr; subst hr
      rw [hd] at hle; simp at hle; omega
  · simp at h

theorem length_lt_of_quotedValue? {text rest : List Char} {r : ValueRead}
    (h : quotedValue? text = some r) (hr : r.rest = some rest) : rest.length < text.length := by
  unfold quotedValue? at h
  split at h
  · simp at h
  · next first more =>
    dsimp only at h
    split at h
    · next after hq =>
      have h₁ := (List.dropWhile_sublist (l := more)
        fun c => decide (c ≠ '"') && isQuotable c).length_le
      have h₂ := (List.dropWhile_sublist (l := after) (· = ' ')).length_le
      rw [hq] at h₁
      split at h
      · split at h
        · simp only [Option.some.injEq] at h; subst h; simp at hr
        · next hs =>
          simp only [Option.some.injEq] at h; subst h
          simp only [Option.some.injEq] at hr; subst hr
          rw [hs] at h₂
          simp at h₁ h₂ ⊢; omega
        · simp at h
      · simp at h
    · simp at h

theorem length_lt_of_value? {text rest : List Char} {r : ValueRead} (h : value? text = some r)
    (hr : r.rest = some rest) : rest.length < text.length := by
  unfold value? at h
  split at h
  · have := length_lt_of_quotedValue? h hr
    simp; omega
  · exact length_lt_of_plainValue? h hr

/-- Reads the parameters behind a `;`. -/
def parameters? (text : List Char) : Option (List Parameter) :=
  match _hs : text.dropWhile (· = ' ') with
  | [] => some []
  | c :: more =>
    let name := (c :: more).takeWhile Text.isToken
    match _ht : (c :: more).dropWhile Text.isToken with
    | '=' :: written =>
      if name.isEmpty then none
      else
        match _hv : value? written with
        | none => none
        | some ⟨value, none⟩ => some [⟨String.ofList name, String.ofList value⟩]
        | some ⟨value, some rest⟩ =>
          (parameters? rest).map (⟨String.ofList name, String.ofList value⟩ :: ·)
    | _ => none
termination_by text.length
decreasing_by
  have h₁ := (List.dropWhile_sublist (l := text) (· = ' ')).length_le
  have h₂ := (List.dropWhile_sublist (l := c :: more) Text.isToken).length_le
  have h₃ := length_lt_of_value? _hv rfl
  rw [_hs] at h₁
  rw [_ht] at h₂
  simp at h₁ h₂; omega

/-- Reads a whole content type: a type, `/`, a subtype, and the parameters. -/
def read? (contentType : List Char) : Option (List Parameter) :=
  match contentType.dropWhile Text.isToken with
  | '/' :: more =>
    if (contentType.takeWhile Text.isToken).isEmpty then none
    else
      match more.dropWhile Text.isToken with
      | [] => some []
      | ';' :: rest => if (more.takeWhile Text.isToken).isEmpty then none else parameters? rest
      | _ => none
  | _ => none

/-- Why a content type has no boundary. -/
inductive BoundaryError where
  /-- The content type does not fit the grammar. -/
  | malformed
  /-- No parameter has that name. -/
  | missing
deriving DecidableEq, Repr

/-- The wording of the fault. -/
def BoundaryError.message : BoundaryError → String
  | .malformed => "failed to decode Content-Type"
  | .missing => "multipart boundary not found in Content-Type"

/-- The value of the first parameter named `boundary`, in any case of letters. -/
def boundary (contentType : String) : Except BoundaryError String :=
  match read? contentType.toList with
  | none => .error .malformed
  | some parameters =>
    match parameters.find? (·.name.map Char.toLower = "boundary") with
    | none => .error .missing
    | some p => .ok p.value

end FormReply.ContentType
