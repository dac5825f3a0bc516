import FormReply.Proofs.Request
import FormReply.Proofs.Text.Numeral
import Mathlib.Algebra.Group.Nat.Defs

/-!
# Texts that announce a length

A length is announced by a numeral with blanks around it: an optional `+` and digits, at most ten
bytes, for a number of 32 bits.  Zeros in front of the digits do not matter as long as there is room
for them.  A value that is no well-formed text announces nothing, since U+FFFD, which is read for
its ill-formed stretches, has no place in a numeral or around it.

* `Announces`: the texts that announce a length;
* `readLength?_eq_some_iff_announces`: they are the ones that a length is read from;
* `readLength?_pad`: the digits of a length are read back;
* `contentLength_eq_some_iff`: the length of a request, by the bytes of its variable;
* `length_of_numeral`: **a length is read** from the texts that announce it.
-/

namespace FormReply.Request

open FormReply.Numeral (Spells)

/-- The text announces the length: a numeral of at most ten bytes for a number of 32 bits, with
blanks around it. -/
inductive Announces (n : Nat) : String → Prop where
  | pad {left numeral right : String} (hl : ∀ c ∈ left.toList, Text.isBlank c)
    (hr : ∀ c ∈ right.toList, Text.isBlank c) (hs : Spells n numeral.toList)
    (hsize : numeral.utf8ByteSize ≤ 10) (hn : n < 2 ^ 32) : Announces n (left ++ numeral ++ right)

/-! ### Numerals between blanks -/

theorem isBlank_of_isDigit {c : Char} (h : c.isDigit = true) : Text.isBlank c = false := by
  have hr := Numeral.range_of_isDigit h
  simp [Text.isBlank]
  omega

/-- A numeral consists of ASCII digits and a `+`. -/
theorem eq_plus_or_isDigit_of_spells {n : Nat} {text : List Char} (h : Spells n text) {c : Char}
    (hc : c ∈ text) : c = '+' ∨ c.isDigit = true := by
  obtain ⟨digits, rfl | rfl, -, hd, -⟩ := h
  · exact Or.inr (hd c hc)
  · exact (List.mem_cons.1 hc).imp id (hd c)

theorem isTrimmed_of_spells {n : Nat} {text : List Char} (h : Spells n text) :
    Text.IsTrimmed text := by
  have hblank : ∀ c ∈ text, Text.isBlank c = false := by
    intro c hc
    rcases eq_plus_or_isDigit_of_spells h hc with rfl | hd
    · decide
    · exact isBlank_of_isDigit hd
  exact ⟨fun c hc => hblank c (List.mem_of_mem_head? hc),
    fun c hc => hblank c (List.mem_of_getLast? hc)⟩

/-- The numeral of an announced length is what is left without the blanks. -/
theorem announces_iff {n : Nat} {text : String} :
    Announces n text ↔ Spells n (Text.trim text.toList) ∧
      (Text.trimString text).utf8ByteSize ≤ 10 ∧ n < 2 ^ 32 := by
  constructor
  · rintro @⟨left, numeral, right, hl, hr, hs, hsize, hn⟩
    have htrim : Text.trim (left ++ numeral ++ right).toList = numeral.toList := by
      rw [String.toList_append, String.toList_append]
      exact Text.trim_pad hl hr (isTrimmed_of_spells hs)
    rw [Text.trimString, htrim, String.ofList_toList]
    exact ⟨hs, hsize, hn⟩
  · rintro ⟨hs, hsize, hn⟩
    obtain ⟨left, right, hl, hr, htext⟩ := Text.exists_pad_trim text.toList
    have hstring : text = String.ofList left ++ Text.trimString text ++ String.ofList right := by
      rw [← String.toList_inj, String.toList_append, String.toList_append, Text.trimString,
        String.toList_ofList, String.toList_ofList, String.toList_ofList]
      exact htext
    rw [hstring]
    refine .pad ?_ ?_ ?_ hsize hn
    · rwa [String.toList_ofList]
    · rwa [String.toList_ofList]
    · rwa [Text.trimString, String.toList_ofList]

/-- **The texts that a length is read from** are those that announce it. -/
theorem readLength?_eq_some_iff_announces {n : Nat} {text : String} :
    readLength? text = some n ↔ Announces n text := by
  have hbound : n ≤ Settings.maxU32 ↔ n < 2 ^ 32 := Nat.lt_succ_iff.symm
  rw [announces_iff, readLength?]
  by_cases hsize : maxLengthDigits < (Text.trimString text).utf8ByteSize
  · have hlong : ¬ (Text.trimString text).utf8ByteSize ≤ 10 := Nat.not_le.2 hsize
    simp [hsize, hlong]
  · have hshort : (Text.trimString text).utf8ByteSize ≤ 10 := Nat.not_lt.1 hsize
    simp only [hsize, hshort, if_false, true_and]
    rw [← hbound, ← Numeral.read_eq_ok_iff, Text.trimString, String.toList_ofList]
    cases Numeral.read Settings.maxU32 (Text.trim text.toList) with
    | error e => simp [Except.toOption]
    | ok m => simp [Except.toOption]

/-! ### Zeros in front of the digits -/

/-- A text of digits has as many bytes as characters. -/
theorem utf8ByteSize_of_isDigit {digits : List Char} (h : ∀ c ∈ digits, c.isDigit = true) :
    (String.ofList digits).utf8ByteSize = digits.length := by
  have hascii : ∀ c ∈ digits, c.toNat < 0x80 := fun c hc => by
    have := Numeral.range_of_isDigit (h c hc)
    omega
  have hlength := congrArg List.length (Utf8.map_asciiChar_encode hascii)
  rw [List.length_map] at hlength
  rw [Utf8.utf8ByteSize_ofList, hlength]

theorem isDigit_of_mem_zeros_append {zeros n : Nat} {c : Char}
    (h : c ∈ List.replicate zeros '0' ++ Nat.toDigits 10 n) : c.isDigit = true := by
  rcases List.mem_append.1 h with h | h
  · rw [List.eq_of_mem_replicate h]
    decide
  · exact Numeral.isDigit_of_mem_toDigits h

theorem spells_zeros_append (zeros n : Nat) :
    Spells n (List.replicate zeros '0' ++ Nat.toDigits 10 n) := by
  refine ⟨_, Or.inl rfl, ?_, fun c hc => isDigit_of_mem_zeros_append hc, ?_⟩
  · exact List.append_ne_nil_of_right_ne_nil _ Nat.toDigits_ne_nil
  · rw [Nat.ofDigitChars_append, Nat.ofDigitChars_replicate_zero, Nat.mul_zero,
      Nat.ofDigitChars_ten_toDigits]

/-- **The digits of a length** announce it, with zeros in front of them while there is room. -/
theorem announces_zeros_append {n zeros : Nat} (hn : n < 2 ^ 32)
    (hroom : zeros + (toString n).length ≤ 10) {left right : String}
    (hl : ∀ c ∈ left.toList, Text.isBlank c) (hr : ∀ c ∈ right.toList, Text.isBlank c) :
    Announces n (left ++ (String.ofList (List.replicate zeros '0') ++ toString n) ++ right) := by
  have hnumeral : String.ofList (List.replicate zeros '0') ++ toString n =
      String.ofList (List.replicate zeros '0' ++ Nat.toDigits 10 n) := by
    rw [String.ofList_append, Nat.toString_eq_ofList_toDigits]
  have hlength : (toString n).length = (Nat.toDigits 10 n).length := by
    rw [Nat.toString_eq_ofList_toDigits, String.length_ofList]
  refine .pad hl hr ?_ ?_ hn
  · rw [hnumeral, String.toList_ofList]
    exact spells_zeros_append zeros n
  · rw [hnumeral, utf8ByteSize_of_isDigit fun c hc => isDigit_of_mem_zeros_append hc,
      List.length_append, List.length_replicate, ← hlength]
    exact hroom

theorem length_toString_le {n : Nat} (h : n < 2 ^ 32) : (toString n).length ≤ 10 := by
  rw [Nat.toString_eq_ofList_toDigits, String.length_ofList]
  exact (Nat.length_toDigits_le_iff (by decide) (by decide)).2 (Nat.lt_trans h (by decide))

/-- **The digits of a length** are read back, with any blanks around them. -/
theorem readLength?_pad {n : Nat} (h : n < 2 ^ 32) {left right : String}
    (hl : ∀ c ∈ left.toList, Text.isBlank c) (hr : ∀ c ∈ right.toList, Text.isBlank c) :
    readLength? (left ++ toString n ++ right) = some n := by
  have hroom : 0 + (toString n).length ≤ 10 := by
    rw [Nat.zero_add]
    exact length_toString_le h
  have ha := announces_zeros_append h hroom hl hr
  rw [List.replicate_zero, String.ofList_nil, String.empty_append] at ha
  exact readLength?_eq_some_iff_announces.2 ha

/-! ### Variables -/

/-- A text that announces a length has no replacement character in it. -/
theorem Announces.not_mem {n : Nat} {text : String} (h : Announces n text) :
    '\uFFFD' ∉ text.toList := by
  obtain @⟨left, numeral, right, hl, hr, hs, -, -⟩ := h
  simp only [String.toList_append, List.mem_append, not_or]
  refine ⟨⟨fun hc => ?_, fun hc => ?_⟩, fun hc => ?_⟩
  · exact absurd (hl _ hc) (by decide)
  · exact absurd (eq_plus_or_isDigit_of_spells hs hc) (by decide)
  · exact absurd (hr _ hc) (by decide)

theorem not_announces_empty (n : Nat) : ¬ Announces n "" := by
  rw [announces_iff]
  rintro ⟨⟨digits, hnil | hnil, hne, -⟩, -⟩
  · exact hne hnil.symm
  · exact absurd hnil (by simp)

/-- **The length of a request** is the one that its variable announces, as a well-formed text. -/
theorem contentLength_eq_some_iff {env : Environment} {request : Request}
    (h : ofEnvironment env = .ok request) {n : Nat} :
    request.contentLength = some n ↔
      ∃ text, env "CONTENT_LENGTH" = some (Bytes.ofString text) ∧ Announces n text := by
  rw [contentLength_of_ofEnvironment h, readLength?_eq_some_iff_announces]
  constructor
  · intro ha
    have hnot := ha.not_mem
    rw [readLossy] at ha hnot
    cases hv : env "CONTENT_LENGTH" with
    | none =>
      rw [hv] at ha
      exact absurd ha (not_announces_empty n)
    | some b =>
      rw [hv, Option.getD_some] at ha hnot
      rw [String.toList_ofList] at hnot
      exact ⟨_, congrArg some (Utf8.eq_ofString_of_decode?
        (Utf8.decode?_of_not_mem_decodeLossy hnot)), ha⟩
  · rintro ⟨text, hv, ha⟩
    rwa [readLossy_of_ofString hv]

/-- **A length is read** from the texts that announce it and from no others: an optional `+` and
digits between blanks, at most ten bytes, for a number of 32 bits, which is the one that is read.
So the digits of such a number are read back, with blanks around them and with as many zeros in
front as fit into ten bytes.  The length of a request is read from its variable like that, if the
variable holds a well-formed text at all. -/
theorem length_of_numeral :
    (∀ text n, readLength? text = some n ↔ Announces n text) ∧
      (∀ text, readLength? text = none ↔ ∀ n, ¬ Announces n text) ∧
      (∀ n < 2 ^ 32, ∀ zeros, zeros + (toString n).length ≤ 10 → ∀ left right : String,
        (∀ c ∈ left.toList, Text.isBlank c) → (∀ c ∈ right.toList, Text.isBlank c) →
        readLength? (left ++ (String.ofList (List.replicate zeros '0') ++ toString n) ++ right) =
          some n) ∧
      ∀ env request, ofEnvironment env = .ok request → ∀ n,
        request.contentLength = some n ↔
          ∃ text, env "CONTENT_LENGTH" = some (Bytes.ofString text) ∧ Announces n text := by
  refine ⟨fun text n => readLength?_eq_some_iff_announces, fun text => ?_,
    fun n hn zeros hroom left right hl hr => ?_, fun env request h n =>
    contentLength_eq_some_iff h⟩
  · rw [Option.eq_none_iff_forall_ne_some]
    exact forall_congr' fun n => not_congr readLength?_eq_some_iff_announces
  · exact readLength?_eq_some_iff_announces.2 (announces_zeros_append hn hroom hl hr)

/-- A length with as many zeros in front as fit, between an em space and a next line. -/
theorem length_of_numeral_with_zeros :
    4294967 < 2 ^ 32 ∧ 3 + (toString 4294967).length ≤ 10 ∧
      (∀ c ∈ "\u2003".toList, Text.isBlank c) ∧ (∀ c ∈ "\u0085".toList, Text.isBlank c) ∧
      readLength?
        ("\u2003" ++ (String.ofList (List.replicate 3 '0') ++ toString 4294967) ++ "\u0085") =
          some 4294967 := by
  have hl : ∀ c ∈ "\u2003".toList, Text.isBlank c := List.forall_mem_singleton.2 (by decide)
  have hr : ∀ c ∈ "\u0085".toList, Text.isBlank c := List.forall_mem_singleton.2 (by decide)
  have hroom : 3 + (toString 4294967).length ≤ 10 := by decide +kernel
  exact ⟨by decide, hroom, hl, hr,
    length_of_numeral.2.2.1 4294967 (by decide) 3 hroom "\u2003" "\u0085" hl hr⟩

/-- A number of 33 bits is not cut down to 32, and a sign takes up one of the ten bytes. -/
example : readLength? "4294967296" = none ∧ readLength? "+999999999" = some 999999999 ∧
    readLength? "+4294967295" = none := by decide +kernel

end FormReply.Request
