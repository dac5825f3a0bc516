import FormReply.Proofs.Json.Fragment
import Mathlib.Data.List.Basic

/-!
# Fragments, however they are cut

A fragment is written character by character, so a text may be cut into fragments between any two
characters.  What a character is written as is told here without the pass that writes it: printable
ASCII stands for itself, and any other character is its UTF-16 units, each behind `\u` with four
hexadecimal digits.

* `escapeUnit_eq_ofString`: the escape of a unit, as text;
* `IsWritten`, `isWritten_iff`: what a character is written as;
* `exists_run_of_copied_mem_pieces`: **every range that is copied** is a run of the text;
* `writeFragment_of_cuts`: **a text is written** alike, however it is cut.
-/

namespace FormReply.Json

open FormReply.Utf8 (encode)

/-! ### Hexadecimal digits -/

/-- The hexadecimal digits of a UTF-16 unit, with zeros in front up to four. -/
def hexDigits (u : Nat) : List Char := (Nat.toDigits 16 u).leftpad 4 '0'

theorem encodeChar_digitChar {n : Nat} (h : n < 16) :
    String.utf8EncodeChar n.digitChar = [hexDigit n] := by
  have hall : ∀ n < 16, String.utf8EncodeChar (Nat.digitChar n) = [hexDigit n] := by decide
  exact hall n h

/-- The last of several places is the last digit. -/
theorem leftpad_toDigits {b : Nat} (hb : 1 < b) (u places : Nat) :
    (Nat.toDigits b u).leftpad (places + 2) '0' =
      (Nat.toDigits b (u / b)).leftpad (places + 1) '0' ++ [(u % b).digitChar] := by
  by_cases hu : u < b
  · have hzero : Nat.toDigits b 0 = ['0'] := Nat.toDigits_of_lt_base (Nat.lt_trans Nat.one_pos hb)
    rw [Nat.toDigits_of_lt_base hu, Nat.div_eq_of_lt hu, Nat.mod_eq_of_lt hu, hzero, List.leftpad,
      List.leftpad]
    simp [List.replicate_succ']
  · rw [Nat.toDigits_of_base_le hb (Nat.not_lt.1 hu), List.leftpad, List.leftpad,
      List.length_append, ← List.append_assoc]
    simp

theorem hexDigits_eq {u : Nat} (hu : u < 0x10000) :
    hexDigits u = [(u / 0x1000 % 16).digitChar, (u / 0x100 % 16).digitChar,
      (u / 0x10 % 16).digitChar, (u % 16).digitChar] := by
  have hthird : u / 16 / 16 = u / 0x100 := by omega
  have hfourth : u / 16 / 16 / 16 = u / 0x1000 := by omega
  have htop : u / 0x1000 < 16 := by omega
  rw [hexDigits, leftpad_toDigits (by decide), leftpad_toDigits (by decide),
    leftpad_toDigits (by decide), hfourth, hthird, Nat.toDigits_of_lt_base htop,
    Nat.mod_eq_of_lt htop]
  rfl

/-- **The escape of a unit**: a backslash, the letter `u` and the four digits. -/
theorem escapeUnit_eq_ofString {u : Nat} (hu : u < 0x10000) :
    escapeUnit u = Bytes.ofString ("\\u" ++ String.ofList (hexDigits u)) := by
  have hdigit : ∀ n, String.utf8EncodeChar (n % 16).digitChar = [hexDigit (n % 16)] := fun n =>
    encodeChar_digitChar (Nat.mod_lt n (by decide))
  have hmark : encode "\\u".toList = [0x5C, 0x75] := by decide
  rw [Utf8.ofString_eq_encode, String.toList_append, Utf8.encode_append, hmark,
    String.toList_ofList, hexDigits_eq hu]
  simp only [Utf8.encode_cons, Utf8.encode_nil, hdigit]
  rfl

/-! ### Characters -/

theorem lt_of_mem_utf16 {c : Char} {u : Nat} (h : u ∈ utf16 c) : u < 0x10000 := by
  generalize hunits : utf16 c = units at h
  obtain hc | ⟨hh, hl, -⟩ := isUtf16_iff.2 hunits.symm
  · rw [List.mem_singleton.1 h]
    exact hc
  · simp only [List.mem_cons, List.not_mem_nil, or_false] at h
    omega

/-- What a character is written as in a fragment. -/
inductive IsWritten (c : Char) : Bytes → Prop where
  /-- Printable ASCII stands for itself. -/
  | literal (h : ' ' ≤ c ∧ c ≤ '~') : IsWritten c (String.utf8EncodeChar c)
  /-- Any other character is escaped unit by unit. -/
  | escaped (h : ¬ (' ' ≤ c ∧ c ≤ '~')) {units : List Nat} (hu : IsUtf16 c units) :
    IsWritten c (units.flatMap fun u => Bytes.ofString ("\\u" ++ String.ofList (hexDigits u)))

theorem isPrintable_iff {c : Char} : isPrintable c = true ↔ ' ' ≤ c ∧ c ≤ '~' := by
  rw [isPrintable, decide_eq_true_iff, Char.le_def, Char.le_def, UInt32.le_iff_toNat_le,
    UInt32.le_iff_toNat_le]
  exact Iff.rfl

/-- **What a character is written as.** -/
theorem isWritten_iff {c : Char} {b : Bytes} : IsWritten c b ↔ b = writeChar c := by
  have hunits : (utf16 c).flatMap escapeUnit =
      (utf16 c).flatMap fun u => Bytes.ofString ("\\u" ++ String.ofList (hexDigits u)) :=
    List.flatMap_congr fun u hu => escapeUnit_eq_ofString (lt_of_mem_utf16 hu)
  constructor
  · rintro (h | @⟨h, units, hu⟩)
    · exact (writeChar_of_isPrintable (isPrintable_iff.2 h)).symm
    · rw [writeChar_of_not_isPrintable (mt isPrintable_iff.1 h), hunits, isUtf16_iff.1 hu]
  · rintro rfl
    by_cases h : ' ' ≤ c ∧ c ≤ '~'
    · rw [writeChar_of_isPrintable (isPrintable_iff.2 h)]
      exact .literal h
    · rw [writeChar_of_not_isPrintable (mt isPrintable_iff.1 h), hunits]
      exact .escaped h (isUtf16_iff.2 rfl)

/-! ### Ranges -/

/-- What is still to be copied are runs of the text: the run at hand, which lies behind `before`,
and runs behind it. -/
theorem exists_run_of_copied_mem_go {before run rest : List Char}
    (hrun : ∀ c ∈ run, isPrintable c = true) {first last : Nat}
    (h : Piece.copied first last ∈
      pieces.go [] (encode before).length (encode (before ++ run)).length rest) :
    ∃ left copied right, before ++ run ++ rest = left ++ copied ++ right ∧
      (∀ c ∈ copied, isPrintable c = true) ∧ first = (encode left).length ∧
      last = (encode (left ++ copied)).length := by
  induction rest generalizing before run with
  | nil =>
    rw [pieces.go, List.reverse_singleton, List.mem_singleton, Piece.copied.injEq] at h
    exact ⟨before, run, [], rfl, hrun, h.1, h.2⟩
  | cons c rest ih =>
    rw [pieces.go, length_encode_add_utf8Size] at h
    split at h
    · next hc =>
      -- The run goes on.
      obtain ⟨left, copied, right, htext, hcopied⟩ := ih (forall_isPrintable_concat hrun hc) h
      exact ⟨left, copied, right, by simpa using htext, hcopied⟩
    · -- The run ends, and the next one begins behind the character.
      rw [pieces.go_eq, List.mem_append, List.reverse_append, List.mem_append] at h
      rcases h with (h | h) | h
      · rw [List.reverse_singleton, List.mem_singleton, Piece.copied.injEq] at h
        exact ⟨before, run, c :: rest, rfl, hrun, h.1, h.2⟩
      · simp at h
      · rw [← List.append_assoc] at h
        obtain ⟨left, copied, right, htext, hcopied⟩ :=
          @ih (before ++ run ++ [c]) [] (by simp) (by rwa [List.append_nil])
        exact ⟨left, copied, right, by simpa using htext, hcopied⟩

/-- **Every range that is copied** is a run of printable characters of the text. -/
theorem exists_run_of_copied_mem_pieces {text : List Char} {first last : Nat}
    (h : Piece.copied first last ∈ pieces text) :
    ∃ left copied right, text = left ++ copied ++ right ∧
      (∀ c ∈ copied, isPrintable c = true) ∧ first = (encode left).length ∧
      last = (encode (left ++ copied)).length :=
  @exists_run_of_copied_mem_go [] [] text (by simp) first last h

/-- **The ranges that are copied** lie within the bytes of the text. -/
theorem bounds_of_copied_mem_pieces {text : List Char} {first last : Nat}
    (h : Piece.copied first last ∈ pieces text) :
    first ≤ last ∧ last ≤ (String.ofList text).utf8ByteSize := by
  obtain ⟨left, copied, right, rfl, -, rfl, rfl⟩ := exists_run_of_copied_mem_pieces h
  rw [Utf8.utf8ByteSize_ofList]
  simp only [Utf8.encode_append, List.length_append]
  omega

/-! ### Cuts -/

/-- Fragments that are written one after another are written like the text that they make up. -/
theorem flatMap_writeFragment (fragments : List (List Char)) :
    fragments.flatMap writeFragment = writeFragment fragments.flatten := by
  rw [writeFragment_eq_flatMap, List.flatten_eq_flatMap, List.flatMap_assoc]
  exact List.flatMap_congr fun fragment _ => writeFragment_eq_flatMap fragment

/-- **A text is written alike, however it is cut.**  The pass over a fragment writes what its
characters are written as, one after another: printable ASCII as it is, and the UTF-16 units of any
other character as escapes of four lowercase hexadecimal digits.  All ranges that it copies lie
within the text.  So fragments that make up a text are written like the text at once. -/
theorem writeFragment_of_cuts (text : List Char) :
    (writeFragment text = text.flatMap writeChar ∧ ∀ c b, IsWritten c b ↔ b = writeChar c) ∧
      (∀ first last, Piece.copied first last ∈ pieces text →
        first ≤ last ∧ last ≤ (String.ofList text).utf8ByteSize) ∧
      ∀ fragments : List (List Char), fragments.flatten = text →
        fragments.flatMap writeFragment = writeFragment text := by
  refine ⟨⟨writeFragment_eq_flatMap text, fun c b => isWritten_iff⟩,
    fun first last h => bounds_of_copied_mem_pieces h, ?_⟩
  rintro fragments rfl
  exact flatMap_writeFragment fragments

/-- Between two characters that are escaped, an empty run is copied. -/
example : pieces ['a', 'é', '😀', 'b'] =
    [.copied 0 1, .escaped 0xE9, .copied 3 3, .escaped 0xD83D, .escaped 0xDE00, .copied 7 8] := by
  decide

end FormReply.Json
