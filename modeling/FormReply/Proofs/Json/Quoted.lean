import FormReply.Json.Token
import FormReply.Json.Writer
import FormReply.Proofs.Json.Fragment
import FormReply.Proofs.Text.Utf8
import Mathlib.Data.List.SplitBy

/-!
# JSON strings there and back

A text between quotes is written character by character, however it is cut into fragments.  What is
written for a character is read as a few units, which are put together to that character again.

* `writeText_eq_flatMap`: a text is written character by character;
* `IsRead`: characters that are read as units, which stand for a text;
* `isRead_escapeChar`: **one character**, by what it is written as;
* `token?_string`: a written string is one token.
-/

namespace FormReply.Json

open FormReply.Utf8 (asciiChar)

/-! ### Writing -/

/-- The bytes of a character between the quotes of a string. -/
def escapeChar (c : Char) : Bytes := (shortEscape? c).getD (writeChar c)

theorem writeFragment_of_forall {run : List Char} (h : ∀ c ∈ run, shortEscape? c = none) :
    writeFragment run = run.flatMap escapeChar := by
  rw [writeFragment_eq_flatMap]
  refine List.flatMap_congr fun c hc => ?_
  rw [escapeChar, h c hc]
  rfl

/-- In a run of several characters, none has an escape of its own. -/
theorem shortEscape?_of_isChain {run : List Char} (h : run.IsChain fun a b => joins a b = true) :
    ∀ {a b : Char} {rest : List Char}, run = a :: b :: rest → ∀ c ∈ run, shortEscape? c = none := by
  have hj : ∀ {a b : Char}, joins a b = true → shortEscape? a = none ∧ shortEscape? b = none := by
    intro a b hab
    simpa [joins, Option.isNone_iff_eq_none] using hab
  induction run with
  | nil => intro a b rest he; simp at he
  | cons x run ih =>
    rintro a b rest he c hc
    obtain ⟨rfl, rfl⟩ := List.cons.inj he
    obtain ⟨hab, hrun⟩ := List.isChain_cons_cons.1 h
    rcases List.mem_cons.1 hc with rfl | hc
    · exact (hj hab).1
    · cases rest with
      | nil => rw [List.mem_singleton.1 hc]; exact (hj hab).2
      | cons d rest => exact ih hrun rfl c hc

theorem writeRun_of_isChain {run : List Char} (h : run.IsChain fun a b => joins a b = true) :
    writeRun run = run.flatMap escapeChar := by
  match run with
  | [] => simp [writeRun]
  | [c] =>
    rw [writeRun, List.flatMap_singleton, escapeChar]
    cases hs : shortEscape? c with
    | some e => rfl
    | none => rw [writeFragment_eq_flatMap, List.flatMap_singleton]; rfl
  | a :: b :: rest => exact writeFragment_of_forall (shortEscape?_of_isChain h rfl)

/-- **A text is written character by character.** -/
theorem writeText_eq_flatMap (text : List Char) : writeText text = text.flatMap escapeChar := by
  have hruns : ∀ run ∈ text.splitBy joins, writeRun run = (id run).flatMap escapeChar := by
    intro run hrun
    exact writeRun_of_isChain (List.isChain_of_mem_splitBy hrun)
  calc writeText text = (text.splitBy joins).flatMap fun run => (id run).flatMap escapeChar :=
        List.flatMap_congr hruns
    _ = ((text.splitBy joins).flatMap id).flatMap escapeChar := List.flatMap_assoc.symm
    _ = text.flatMap escapeChar := by rw [List.flatMap_id, List.flatten_splitBy]

/-! ### Reading -/

/-- The written characters are read as units, and the units are put together to the text, whatever
follows them. -/
structure IsRead (written : List Char) (units : List StringUnit) (text : List Char) : Prop where
  read : ∀ out rest,
    stringUnits? out (written ++ rest) = stringUnits? (units.reverse ++ out) rest
  join : ∀ out rest,
    joinUnitsAfter? out (units ++ rest) = joinUnitsAfter? (text.reverse ++ out) rest

theorem isRead_nil : IsRead [] [] [] := ⟨fun _ _ => rfl, fun _ _ => rfl⟩

theorem IsRead.append {w₁ w₂ t₁ t₂ : List Char} {u₁ u₂ : List StringUnit} (h₁ : IsRead w₁ u₁ t₁)
    (h₂ : IsRead w₂ u₂ t₂) : IsRead (w₁ ++ w₂) (u₁ ++ u₂) (t₁ ++ t₂) := by
  constructor
  · intro out rest
    rw [List.append_assoc, h₁.read, h₂.read, List.reverse_append, List.append_assoc]
  · intro out rest
    rw [List.append_assoc, h₁.join, h₂.join, List.reverse_append, List.append_assoc]

theorem joinUnitsAfter?_literal (out : List Char) (c : Char) (rest : List StringUnit) :
    joinUnitsAfter? out (.literal c :: rest) = joinUnitsAfter? (c :: out) rest := rfl

/-- A unit that is no surrogate is a character, whatever follows it. -/
theorem joinUnitsAfter?_unit (out : List Char) {u : Nat} (hu : ¬ (0xD800 ≤ u ∧ u < 0xE000))
    (rest : List StringUnit) :
    joinUnitsAfter? out (.escaped u :: rest) = joinUnitsAfter? (Char.ofNat u :: out) rest := by
  have hhigh : ¬ (0xD800 ≤ u ∧ u < 0xDC00) := by omega
  have hlow : ¬ (0xDC00 ≤ u ∧ u < 0xE000) := by omega
  match rest with
  | [] => simp [joinUnitsAfter?, hu]
  | .literal c :: rest => simp [joinUnitsAfter?, hu]
  | .escaped low :: rest => rw [joinUnitsAfter?, if_neg hhigh, if_neg hlow]

theorem joinUnitsAfter?_pair (out : List Char) {high low : Nat}
    (hh : 0xD800 ≤ high ∧ high < 0xDC00) (hl : 0xDC00 ≤ low ∧ low < 0xE000)
    (rest : List StringUnit) :
    joinUnitsAfter? out (.escaped high :: .escaped low :: rest) =
      joinUnitsAfter? (Char.ofNat (0x10000 + (high - 0xD800) * 0x400 + (low - 0xDC00)) :: out)
        rest := by
  rw [joinUnitsAfter?, if_pos hh, if_pos hl]

theorem isRead_literal {c : Char} (h₁ : 0x20 ≤ c.toNat) (h₂ : c ≠ '"') (h₃ : c ≠ '\\') :
    IsRead [c] [.literal c] [c] := by
  refine ⟨fun out rest => ?_, fun out rest => joinUnitsAfter?_literal out c rest⟩
  have hc : ¬ (c.toNat < 0x20 ∨ c = '\\') := by
    rintro (h | h)
    · omega
    · exact h₃ h
  rw [List.singleton_append, stringUnits?]
  · rw [if_neg hc]; rfl
  · exact h₂
  · intro a b d e t he; exact absurd he h₃
  · intro d t he; exact absurd he h₃

theorem isRead_simple (letter : Char) {c : Char} (hu : letter ≠ 'u')
    (h : simpleEscape? letter = some c) : IsRead ['\\', letter] [.literal c] [c] := by
  refine ⟨fun out rest => ?_, fun out rest => joinUnitsAfter?_literal out c rest⟩
  rw [List.cons_append, List.singleton_append, stringUnits?]
  · simp only [h]; rfl
  · intro a b d e t he; exact absurd he hu

theorem digitValue?_hexDigit {n : Nat} (h : n < 16) :
    digitValue? (asciiChar (hexDigit n)) = some n := by
  have hall : ∀ n < 16, digitValue? (asciiChar (hexDigit n)) = some n := by decide
  exact hall n h

/-- Four hexadecimal digits are read as the unit that they were written for. -/
theorem stringUnits?_escapeUnit (out : List StringUnit) {u : Nat} (hu : u < 0x10000)
    (rest : List Char) :
    stringUnits? out ((escapeUnit u).map asciiChar ++ rest) =
      stringUnits? (.escaped u :: out) rest := by
  have hdigit : ∀ n, digitValue? (asciiChar (hexDigit (n % 16))) = some (n % 16) := fun n =>
    digitValue?_hexDigit (Nat.mod_lt _ (by decide))
  have hunit : unit? (asciiChar (hexDigit (u / 0x1000 % 16)))
      (asciiChar (hexDigit (u / 0x100 % 16))) (asciiChar (hexDigit (u / 0x10 % 16)))
      (asciiChar (hexDigit (u % 16))) = some u := by
    simp only [unit?, hdigit, Option.bind_eq_bind, Option.bind_some, Option.pure_def,
      Option.some.injEq]
    omega
  show stringUnits? out ('\\' :: 'u' :: _ :: _ :: _ :: _ :: rest) = _
  rw [stringUnits?, hunit]

theorem isRead_unit {u : Nat} (hu : u < 0x10000) (hs : ¬ (0xD800 ≤ u ∧ u < 0xE000)) :
    IsRead ((escapeUnit u).map asciiChar) [.escaped u] [Char.ofNat u] :=
  ⟨fun out rest => stringUnits?_escapeUnit out hu rest,
    fun out rest => joinUnitsAfter?_unit out hs rest⟩

theorem isRead_pair (high low : Nat) (hh : 0xD800 ≤ high ∧ high < 0xDC00)
    (hl : 0xDC00 ≤ low ∧ low < 0xE000) :
    IsRead ((escapeUnit high).map asciiChar ++ (escapeUnit low).map asciiChar)
      [.escaped high, .escaped low]
      [Char.ofNat (0x10000 + (high - 0xD800) * 0x400 + (low - 0xDC00))] := by
  refine ⟨fun out rest => ?_, fun out rest => joinUnitsAfter?_pair out hh hl rest⟩
  rw [List.append_assoc, stringUnits?_escapeUnit out (by omega),
    stringUnits?_escapeUnit _ (by omega)]
  rfl

theorem isRead_utf16 (c : Char) :
    IsRead (((utf16 c).flatMap escapeUnit).map asciiChar) ((utf16 c).map .escaped) [c] := by
  have hv := Utf8.isValidChar c
  generalize hunits : utf16 c = units
  cases isUtf16_iff.2 hunits.symm with
  | unit hc =>
    have h := isRead_unit hc (by omega)
    rw [Char.ofNat_toNat] at h
    rw [List.flatMap_singleton]
    exact h
  | @pair high low hh hl hc =>
    have h := isRead_pair high low hh hl
    rw [← hc, Char.ofNat_toNat] at h
    rw [List.flatMap_cons, List.flatMap_singleton, List.map_append]
    exact h

theorem isRead_writeChar {c : Char} (h₁ : c ≠ '"') (h₂ : c ≠ '\\') :
    ∃ units, IsRead ((writeChar c).map asciiChar) units [c] := by
  by_cases hc : isPrintable c = true
  · have hr : 0x20 ≤ c.toNat ∧ c.toNat ≤ 0x7E := by simpa [isPrintable] using hc
    refine ⟨[.literal c], ?_⟩
    rw [writeChar, if_pos hc, List.map_singleton, Utf8.asciiChar_ofNat (by omega)]
    exact isRead_literal hr.1 h₁ h₂
  · rw [writeChar_of_not_isPrintable hc]
    exact ⟨_, isRead_utf16 c⟩

/-- **What a character is written as** is read as that character. -/
theorem isRead_escapeChar (c : Char) :
    ∃ units, IsRead ((escapeChar c).map asciiChar) units [c] := by
  unfold escapeChar shortEscape?
  split
  · exact ⟨_, isRead_simple '"' (by decide) rfl⟩
  · exact ⟨_, isRead_simple '\\' (by decide) rfl⟩
  · exact ⟨_, isRead_simple 'b' (by decide) rfl⟩
  · exact ⟨_, isRead_simple 'f' (by decide) rfl⟩
  · exact ⟨_, isRead_simple 'n' (by decide) rfl⟩
  · exact ⟨_, isRead_simple 'r' (by decide) rfl⟩
  · exact ⟨_, isRead_simple 't' (by decide) rfl⟩
  · next h₁ h₂ _ _ _ _ _ =>
    split
    · next hc =>
      -- A control is written as its only unit.
      have h := isRead_utf16 c
      rw [utf16, if_pos (by omega), List.flatMap_singleton] at h
      exact ⟨_, h⟩
    · exact isRead_writeChar h₁ h₂

/-- **A written text** is read as that text. -/
theorem isRead_writeText (text : List Char) :
    ∃ units, IsRead ((writeText text).map asciiChar) units text := by
  rw [writeText_eq_flatMap]
  induction text with
  | nil => exact ⟨[], isRead_nil⟩
  | cons c text ih =>
    obtain ⟨u₁, h₁⟩ := isRead_escapeChar c
    obtain ⟨u₂, h₂⟩ := ih
    refine ⟨u₁ ++ u₂, ?_⟩
    rw [List.flatMap_cons, List.map_append]
    exact h₁.append h₂

/-- **A written string is one token,** whatever follows it. -/
theorem token?_string (s : String) (rest : List Char) :
    token? '"' ((writeText s.toList).map asciiChar ++ '"' :: rest) = some (.str s, rest) := by
  obtain ⟨units, h⟩ := isRead_writeText s.toList
  have hread := h.read [] ('"' :: rest)
  rw [stringUnits?, List.append_nil, List.reverse_reverse] at hread
  have hjoin := h.join [] []
  rw [List.append_nil, List.append_nil, joinUnitsAfter?, List.reverse_reverse] at hjoin
  simp [token?, mark?, hread, joinUnits?, hjoin, String.ofList_toList]

end FormReply.Json
