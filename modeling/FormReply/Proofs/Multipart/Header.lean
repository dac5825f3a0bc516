import FormReply.Multipart.Header
import FormReply.Proofs.Lists

/-!
# Header lines there and back

A header is written as its name, a colon, a space and its value.  It is read back if the name is
made of token bytes and no blank or control comes at the wrong place of the value.

* `IsWritable`: the headers that are read back;
* `line?_write`: **one line**;
* `parse?_write`: a block of one line.
-/

namespace FormReply.Multipart.Header

/-- The line of a header, with its end. -/
def write (h : Header) : Bytes := h.name ++ 0x3A :: 0x20 :: (h.value ++ Bytes.crlf)

/-- The name is a token, and the value fits on a line and has no blanks around it. -/
structure IsWritable (h : Header) : Prop where
  name_ne_nil : h.name ≠ []
  token : ∀ b ∈ h.name, Text.isTokenByte b = true
  value : ∀ b ∈ h.value, isValueByte b = true
  first : ∀ b ∈ h.value.head?, isBlankByte b = false
  last : ∀ b ∈ h.value.getLast?, isBlankByte b = false

theorem isValueByte_iff {b : UInt8} :
    isValueByte b = true ↔ b.toNat = 9 ∨ 0x20 ≤ b.toNat ∧ b.toNat ≠ 0x7F := by
  simp [isValueByte, UInt8.le_iff_toNat_le, ← UInt8.toNat_inj]

theorem trimRight_of_getLast? {s : Bytes} (h : ∀ b ∈ s.getLast?, isBlankByte b = false) :
    trimRight s = s := by
  rw [← List.head?_reverse] at h
  rw [trimRight]
  cases hs : s.reverse with
  | nil =>
    rw [List.reverse_eq_nil_iff] at hs
    rw [hs]
    rfl
  | cons b t =>
    have hb := h b (by rw [hs]; rfl)
    rw [List.dropWhile_cons_of_neg (by rw [hb]; decide), ← hs, List.reverse_reverse]

/-- **One line** is read as its header. -/
theorem line?_write {h : Header} (hw : h.IsWritable) (rest : Bytes) :
    line? (h.write ++ rest) = some (h, rest) := by
  have hline : h.write ++ rest = h.name ++ 0x3A :: 0x20 :: (h.value ++ 13 :: 10 :: rest) := by
    simp only [write, Bytes.crlf, List.append_assoc, List.cons_append, List.nil_append]
  have hn₁ := takeWhile_append_cons hw.token (x := 0x3A) (by decide)
    (0x20 :: (h.value ++ 13 :: 10 :: rest))
  have hn₂ := dropWhile_append_cons hw.token (x := 0x3A) (by decide)
    (0x20 :: (h.value ++ 13 :: 10 :: rest))
  have hblank : (0x20 :: (h.value ++ 13 :: 10 :: rest)).dropWhile isBlankByte =
      h.value ++ 13 :: 10 :: rest := by
    rw [List.dropWhile_cons_of_pos (by decide)]
    cases hv : h.value with
    | nil => exact List.dropWhile_cons_of_neg (by decide)
    | cons b value =>
      have hb := hw.first b (by rw [hv]; rfl)
      exact List.dropWhile_cons_of_neg (by rw [hb]; decide)
  have hv₁ := takeWhile_append_cons hw.value (x := 13) (by decide) (10 :: rest)
  have hv₂ := dropWhile_append_cons hw.value (x := 13) (by decide) (10 :: rest)
  have hend : afterLineEnd? (13 :: 10 :: rest) = some rest := rfl
  rw [hline]
  unfold line?
  simp only [hn₁, hn₂, hblank, hv₁, hv₂, hend]
  rw [trimRight_of_getLast? hw.last, if_neg (by simpa using hw.name_ne_nil)]

/-- A written line is no empty line. -/
theorem afterLineEnd?_write {h : Header} (hw : h.IsWritable) (rest : Bytes) :
    afterLineEnd? (h.write ++ rest) = none := by
  obtain ⟨b, name, hn⟩ := List.exists_cons_of_ne_nil hw.name_ne_nil
  have hb := hw.token b (by rw [hn]; exact List.mem_cons_self)
  rw [write, hn]
  unfold afterLineEnd?
  split
  · next he =>
    rw [(List.cons.inj he).1] at hb
    exact absurd hb (by decide)
  · next he =>
    rw [(List.cons.inj he).1] at hb
    exact absurd hb (by decide)
  · rfl

/-- **A block of one line** holds that header. -/
theorem parse?_write {h : Header} (hw : h.IsWritable) :
    parse? (h.write ++ Bytes.crlf) = some [h] := by
  have hrest : parseAfter? [h] Bytes.crlf = some [h] := by
    rw [parseAfter?]
    rfl
  rw [parse?, parseAfter?, afterLineEnd?_write hw]
  simp only
  rw [if_neg (by decide)]
  split
  · next header rest he =>
    obtain ⟨rfl, rfl⟩ : h = header ∧ Bytes.crlf = rest := by
      rw [line?_write hw] at he
      simpa using he
    exact hrest
  · next he =>
    rw [line?_write hw] at he
    exact absurd he (by simp)

end FormReply.Multipart.Header
