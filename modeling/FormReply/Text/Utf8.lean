import FormReply.Bytes

/-!
# UTF-8

Decoding goes byte by byte.  The decoder emits, for every character, that character, and for every
maximal ill-formed stretch one failure; strict decoding refuses a failure, lossy decoding puts
U+FFFD in its place.

* `units_append_of_ascii`: an ASCII byte is a boundary: what stands before it and what follows it
  are decoded on their own;
* `decodeLossy_of_decode?`: on well-formed bytes both readings agree.
-/

namespace FormReply.Utf8

/-- The bytes of a text. -/
def encode (text : List Char) : Bytes := text.flatMap String.utf8EncodeChar

theorem ofString_eq_encode (s : String) : Bytes.ofString s = encode s.toList := rfl

@[simp] theorem encode_nil : encode [] = [] := rfl

@[simp] theorem encode_cons (c : Char) (text : List Char) :
    encode (c :: text) = String.utf8EncodeChar c ++ encode text := rfl

@[simp] theorem encode_append (a b : List Char) : encode (a ++ b) = encode a ++ encode b :=
  List.flatMap_append

/-- A character whose first bytes have been read. -/
structure Unfinished where
  /-- How many bytes are still to come. -/
  missing : Nat
  /-- The bits read so far. -/
  value : Nat
  /-- The least byte that may come next. -/
  low : UInt8
  /-- The greatest byte that may come next. -/
  high : UInt8
deriving DecidableEq, Repr

/-- What one byte settles: the characters and failures it completes, and the character it leaves
open. -/
structure Step where
  /-- Characters, and `none` for an ill-formed stretch. -/
  emitted : List (Option Char)
  /-- The character that is now open. -/
  state : Option Unfinished

/-- A byte read where a character starts. -/
def start (b : UInt8) : Step :=
  if b < 0x80 then ⟨[some (Char.ofNat b.toNat)], none⟩
  else if b < 0xC2 then ⟨[none], none⟩
  else if b < 0xE0 then ⟨[], some ⟨1, b.toNat - 0xC0, 0x80, 0xBF⟩⟩
  else if b = 0xE0 then ⟨[], some ⟨2, 0, 0xA0, 0xBF⟩⟩
  else if b = 0xED then ⟨[], some ⟨2, 0xD, 0x80, 0x9F⟩⟩
  else if b < 0xF0 then ⟨[], some ⟨2, b.toNat - 0xE0, 0x80, 0xBF⟩⟩
  else if b = 0xF0 then ⟨[], some ⟨3, 0, 0x90, 0xBF⟩⟩
  else if b < 0xF4 then ⟨[], some ⟨3, b.toNat - 0xF0, 0x80, 0xBF⟩⟩
  else if b = 0xF4 then ⟨[], some ⟨3, 4, 0x80, 0x8F⟩⟩
  else ⟨[none], none⟩

/-- One byte.  A byte that cannot continue the open character ends it as ill-formed and is read
again as the start of a character. -/
def step (state : Option Unfinished) (b : UInt8) : Step :=
  match state with
  | none => start b
  | some p =>
    if p.low ≤ b ∧ b ≤ p.high then
      let value := p.value * 64 + (b.toNat - 0x80)
      if p.missing ≤ 1 then ⟨[some (Char.ofNat value)], none⟩
      else ⟨[], some ⟨p.missing - 1, value, 0x80, 0xBF⟩⟩
    else
      let s := start b
      ⟨none :: s.emitted, s.state⟩

/-- The end of the bytes: an open character is ill-formed. -/
def finish (state : Option Unfinished) : List (Option Char) :=
  match state with
  | none => []
  | some _ => [none]

/-- The characters of the bytes, with `none` for each maximal ill-formed stretch, when the decoder
is in `state`. -/
def unitsFrom (state : Option Unfinished) (s : Bytes) : List (Option Char) :=
  go [] state s
where
  /-- Decodes `s`, with what has been emitted so far in `out`, last one first. -/
  go (out : List (Option Char)) (state : Option Unfinished) : Bytes → List (Option Char)
    | [] => out.reverse ++ finish state
    | b :: rest => go ((step state b).emitted.reverse ++ out) (step state b).state rest

/-- The characters of the bytes, with `none` for each maximal ill-formed stretch. -/
def units (s : Bytes) : List (Option Char) := unitsFrom none s

/-- The text, if the bytes are well-formed. -/
def decode? (s : Bytes) : Option (List Char) :=
  let us := units s
  if us.all Option.isSome then some (us.filterMap id) else none

/-- The text, with U+FFFD for each maximal ill-formed stretch. -/
def decodeLossy (s : Bytes) : List Char := (units s).map (·.getD '\uFFFD')

/-! ### The decoder -/

theorem unitsFrom.go_eq (out : List (Option Char)) (state : Option Unfinished) (s : Bytes) :
    unitsFrom.go out state s = out.reverse ++ unitsFrom.go [] state s := by
  induction s generalizing out state with
  | nil => simp [unitsFrom.go]
  | cons b rest ih =>
    rw [unitsFrom.go, ih, unitsFrom.go, ih ((step state b).emitted.reverse ++ [])]
    simp

@[simp] theorem unitsFrom_nil (state : Option Unfinished) : unitsFrom state [] = finish state := rfl

theorem unitsFrom_cons (state : Option Unfinished) (b : UInt8) (rest : Bytes) :
    unitsFrom state (b :: rest) =
      (step state b).emitted ++ unitsFrom (step state b).state rest := by
  conv => lhs; rw [unitsFrom, unitsFrom.go, unitsFrom.go_eq]
  simp [unitsFrom]

@[simp] theorem units_nil : units [] = [] := rfl

/-- An ASCII byte ends whatever character is open and stands for itself. -/
theorem step_of_ascii {p : Option Unfinished} {b : UInt8} (hb : b < 0x80)
    (hp : ∀ q ∈ p, 0x80 ≤ q.low) :
    (step p b).emitted = finish p ++ [some (Char.ofNat b.toNat)] ∧ (step p b).state = none := by
  cases p with
  | none => simp [step, start, hb, finish]
  | some q =>
    have hq : ¬ q.low ≤ b := by
      have := hp q rfl
      simp only [UInt8.le_iff_toNat_le, UInt8.lt_iff_toNat_lt] at *
      simp at *; omega
    simp [step, start, hb, hq, finish]

theorem low_of_state {p : Option Unfinished} {b : UInt8} {q : Unfinished}
    (h : (step p b).state = some q) : 0x80 ≤ q.low := by
  have hstart : ∀ {q}, (start b).state = some q → 0x80 ≤ q.low := by
    intro q hq
    unfold start at hq
    repeat' split at hq
    all_goals simp only [Option.some.injEq, reduceCtorEq] at hq
    all_goals subst hq
    all_goals first | exact UInt8.le_refl _ | decide
  cases p with
  | none => exact hstart h
  | some p =>
    unfold step at h
    simp only at h
    split at h
    · split at h
      · simp at h
      · simp only [Option.some.injEq] at h; subst h; simp
    · exact hstart h

theorem unitsFrom_append_of_ascii {p : Option Unfinished} (hp : ∀ q ∈ p, 0x80 ≤ q.low) (a : Bytes)
    {b : UInt8} (hb : b < 0x80) (rest : Bytes) :
    unitsFrom p (a ++ b :: rest) = unitsFrom p a ++ some (Char.ofNat b.toNat) :: units rest := by
  induction a generalizing p with
  | nil =>
    obtain ⟨he, hs⟩ := step_of_ascii hb hp
    simp [unitsFrom_cons, he, hs, units]
  | cons x a ih =>
    rw [List.cons_append, unitsFrom_cons, unitsFrom_cons, ih (fun q hq => low_of_state hq)]
    simp

/-- **An ASCII byte is a boundary**: what stands before it and what follows it are decoded on their
own. -/
theorem units_append_of_ascii (a : Bytes) {b : UInt8} (hb : b < 0x80) (rest : Bytes) :
    units (a ++ b :: rest) = units a ++ some (Char.ofNat b.toNat) :: units rest :=
  unitsFrom_append_of_ascii (by simp) a hb rest

theorem decodeLossy_append_of_ascii (a : Bytes) {b : UInt8} (hb : b < 0x80) (rest : Bytes) :
    decodeLossy (a ++ b :: rest) = decodeLossy a ++ Char.ofNat b.toNat :: decodeLossy rest := by
  simp [decodeLossy, units_append_of_ascii a hb rest]

/-! ### Strict and lossy reading -/

theorem decode?_eq_some_iff {s : Bytes} {text : List Char} :
    decode? s = some text ↔ units s = text.map some := by
  unfold decode?
  generalize units s = us
  simp only [Option.ite_none_right_eq_some, Option.some.injEq]
  constructor
  · rintro ⟨h, rfl⟩
    induction us with
    | nil => rfl
    | cons u us ih =>
      simp only [List.all_cons, Bool.and_eq_true] at h
      obtain ⟨c, rfl⟩ := Option.isSome_iff_exists.1 h.1
      simpa using ih h.2
  · rintro rfl
    simp

/-- On well-formed bytes both readings agree. -/
theorem decodeLossy_of_decode? {s : Bytes} {text : List Char} (h : decode? s = some text) :
    decodeLossy s = text := by
  simp [decodeLossy, decode?_eq_some_iff.1 h, Function.comp_def]

example : decodeLossy [0x61, 0xE2, 0x82, 0x62] = ['a', '\uFFFD', 'b'] := by decide

example : decode? [0xE2, 0x82, 0xAC] = some ['€'] := by decide

end FormReply.Utf8
