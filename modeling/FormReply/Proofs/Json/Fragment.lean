import FormReply.Json.Fragment
import FormReply.Proofs.Text.Utf8

/-!
# Fragments, character by character

The pass that writes a fragment copies runs of printable characters as ranges of bytes.  What it
keeps is that the run at hand begins at the byte where the characters before it end.

* `flatMap_write_go`: the pieces that are still to come, from any place of the pass;
* `writeFragment_eq_flatMap`: a fragment is written character by character;
* `IsUtf16`, `isUtf16_iff`: the units of a character;
* `isPrintableByte_of_mem_writeChar`: all of it is printable ASCII.
-/

namespace FormReply.Json

open FormReply.Utf8 (encode)

/-- **The bytes of a run** are a range of the bytes of the text. -/
theorem toList_extract_run (before run rest : List Char) :
    ((String.ofList (before ++ run ++ rest)).toByteArray.extract (encode before).length
      (encode (before ++ run)).length).data.toList = encode run := by
  have hdata : (String.ofList (before ++ run ++ rest)).toByteArray.data.toList =
      encode before ++ (encode run ++ encode rest) := by
    rw [String.toByteArray_ofList, List.utf8Encode, List.data_toByteArray]
    show encode (before ++ run ++ rest) = _
    rw [Utf8.encode_append, Utf8.encode_append, List.append_assoc]
  rw [ByteArray.data_extract, Array.toList_extract, List.extract_eq_take_drop, hdata,
    Utf8.encode_append, List.length_append, Nat.add_sub_cancel_left, List.drop_left' rfl,
    List.take_left' rfl]

theorem writeChar_of_isPrintable {c : Char} (h : isPrintable c = true) :
    writeChar c = String.utf8EncodeChar c := by
  have hr : 0x20 ≤ c.toNat ∧ c.toNat ≤ 0x7E := by simpa [isPrintable] using h
  rw [writeChar, if_pos h, Utf8.encodeChar_of_ascii (by omega)]

theorem writeChar_of_not_isPrintable {c : Char} (h : ¬ isPrintable c = true) :
    writeChar c = (utf16 c).flatMap escapeUnit := by
  rw [writeChar, if_neg h]

/-- A character behind the run at hand moves its end by the bytes of the character. -/
theorem length_encode_add_utf8Size (before run : List Char) (c : Char) :
    (encode (before ++ run)).length + c.utf8Size = (encode (before ++ (run ++ [c]))).length := by
  rw [← List.append_assoc, Utf8.encode_append _ [c], List.length_append]
  simp

theorem forall_isPrintable_concat {run : List Char} (h : ∀ c ∈ run, isPrintable c = true) {c : Char}
    (hc : isPrintable c = true) : ∀ d ∈ run ++ [c], isPrintable d = true := by
  intro d hd
  rcases List.mem_append.1 hd with hd | hd
  · exact h d hd
  · rw [List.mem_singleton.1 hd]; exact hc

/-- **The pieces that are still to come.**  Before them lies `before`, whose pieces are complete,
and then the run at hand, which is printable. -/
theorem flatMap_write_go (before run rest : List Char) (hrun : ∀ c ∈ run, isPrintable c = true) :
    (pieces.go [] (encode before).length (encode (before ++ run)).length rest).flatMap
        (Piece.write (String.ofList (before ++ run ++ rest)).toByteArray) =
      encode run ++ rest.flatMap writeChar := by
  induction rest generalizing before run with
  | nil =>
    rw [pieces.go, List.reverse_singleton, List.flatMap_singleton, Piece.write, toList_extract_run,
      List.flatMap_nil, List.append_nil]
  | cons c rest ih =>
    rw [pieces.go, length_encode_add_utf8Size]
    split
    · next hc =>
      -- The run goes on.
      have h := ih before (run ++ [c]) (forall_isPrintable_concat hrun hc)
      rw [show before ++ run ++ c :: rest = before ++ (run ++ [c]) ++ rest by simp, h,
        Utf8.encode_append, List.flatMap_cons, writeChar_of_isPrintable hc]
      simp
    · next hc =>
      -- The run ends, and the next one begins behind the character.
      have h := ih (before ++ run ++ [c]) [] (by simp)
      rw [List.append_nil, Utf8.encode_nil, List.nil_append] at h
      rw [pieces.go_eq, List.flatMap_append, ← List.append_assoc before,
        show before ++ run ++ c :: rest = before ++ run ++ [c] ++ rest by simp, h,
        List.flatMap_cons, writeChar_of_not_isPrintable hc]
      simp only [List.reverse_append, List.reverse_cons, List.reverse_nil, List.nil_append,
        List.reverse_reverse, List.flatMap_cons, List.cons_append, List.append_assoc]
      rw [Piece.write, ← List.append_assoc before run, toList_extract_run]
      simp [List.flatMap_map, Piece.write]

/-- **A fragment is written character by character.** -/
theorem writeFragment_eq_flatMap (text : List Char) :
    writeFragment text = text.flatMap writeChar := by
  have h := flatMap_write_go [] [] text (by simp)
  simpa [writeFragment, pieces] using h

/-! ### UTF-16 units -/

/-- The UTF-16 units of a character: one, or a high and a low surrogate. -/
inductive IsUtf16 (c : Char) : List Nat → Prop where
  | unit (h : c.toNat < 0x10000) : IsUtf16 c [c.toNat]
  | pair {high low : Nat} (hh : 0xD800 ≤ high ∧ high < 0xDC00) (hl : 0xDC00 ≤ low ∧ low < 0xE000)
    (h : c.toNat = 0x10000 + (high - 0xD800) * 0x400 + (low - 0xDC00)) : IsUtf16 c [high, low]

theorem isUtf16_iff {c : Char} {units : List Nat} : IsUtf16 c units ↔ units = utf16 c := by
  have hv := Utf8.isValidChar c
  unfold utf16
  constructor
  · rintro (h | ⟨hh, hl, h⟩)
    · rw [if_pos h]
    · rw [if_neg (by omega), List.cons.injEq, List.cons.injEq]
      exact ⟨by omega, by omega, rfl⟩
  · rintro rfl
    split
    · next h => exact .unit h
    · next h => exact .pair (by omega) (by omega) (by omega)

/-! ### Printable bytes -/

/-- The byte is printable ASCII. -/
def IsPrintableByte (b : UInt8) : Prop := 0x20 ≤ b ∧ b ≤ 0x7E

instance (b : UInt8) : Decidable (IsPrintableByte b) := inferInstanceAs (Decidable (_ ∧ _))

theorem isPrintableByte_iff {b : UInt8} : IsPrintableByte b ↔ 0x20 ≤ b.toNat ∧ b.toNat ≤ 0x7E := by
  rw [IsPrintableByte, UInt8.le_iff_toNat_le, UInt8.le_iff_toNat_le]
  exact Iff.rfl

theorem isPrintableByte_hexDigit {n : Nat} (h : n < 16) : IsPrintableByte (hexDigit n) := by
  rw [isPrintableByte_iff, hexDigit, UInt8.toNat_ofNat']
  split <;> omega

theorem isPrintableByte_of_mem_escapeUnit {u : Nat} {b : UInt8} (h : b ∈ escapeUnit u) :
    IsPrintableByte b := by
  have hmod : ∀ n, IsPrintableByte (hexDigit (n % 16)) := fun n =>
    isPrintableByte_hexDigit (Nat.mod_lt _ (by decide))
  simp only [escapeUnit, List.mem_cons, List.not_mem_nil, or_false] at h
  rcases h with rfl | rfl | rfl | rfl | rfl | rfl
  · decide
  · decide
  · exact hmod _
  · exact hmod _
  · exact hmod _
  · exact hmod _

/-- **What a character is written as** is printable ASCII. -/
theorem isPrintableByte_of_mem_writeChar {c : Char} {b : UInt8} (h : b ∈ writeChar c) :
    IsPrintableByte b := by
  by_cases hc : isPrintable c = true
  · have hr : 0x20 ≤ c.toNat ∧ c.toNat ≤ 0x7E := by simpa [isPrintable] using hc
    rw [writeChar, if_pos hc, List.mem_singleton] at h
    rw [h, isPrintableByte_iff, UInt8.toNat_ofNat']
    omega
  · rw [writeChar_of_not_isPrintable hc, List.mem_flatMap] at h
    obtain ⟨u, -, hu⟩ := h
    exact isPrintableByte_of_mem_escapeUnit hu

end FormReply.Json
