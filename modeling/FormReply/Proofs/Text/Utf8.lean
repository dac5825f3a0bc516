import FormReply.Text.Utf8

/-!
# UTF-8 there and back

A text that is encoded is decoded to itself, also before other bytes.  An ASCII byte in an encoded
text stands for itself, so a search for ASCII text may be done on the bytes.

* `units_encode_append`: the decoder behind an encoded text;
* `decode?_encode`, `decode?_ascii`: reading what was written;
* `mem_of_mem_encode`, `infix_of_encode_infix`: ASCII in an encoded text;
* `exists_infix_of_decode?`: what stands between two ASCII bytes of a text is a piece of it;
* `decode?_eq_some_iff_eq_encode`: **strict decoding** accepts the encoded texts and nothing else;
* `decodeLossy_eq_nil_iff`: **lossy decoding** makes no text empty;
* `decode?_of_not_mem_decodeLossy`: without U+FFFD in it, nothing was lost.
-/

namespace FormReply.Utf8

/-! ### One character -/

theorem unitsFrom_last {value : Nat} {low high b : UInt8} (hl : low ≤ b) (hh : b ≤ high)
    (rest : Bytes) :
    unitsFrom (some ⟨1, value, low, high⟩) (b :: rest) =
      some (Char.ofNat (value * 64 + (b.toNat - 0x80))) :: units rest := by
  simp [unitsFrom_cons, step, hl, hh, units]

theorem unitsFrom_inner {missing value : Nat} {low high b : UInt8} (hl : low ≤ b) (hh : b ≤ high)
    (rest : Bytes) :
    unitsFrom (some ⟨missing + 2, value, low, high⟩) (b :: rest) =
      unitsFrom (some ⟨missing + 1, value * 64 + (b.toNat - 0x80), 0x80, 0xBF⟩) rest := by
  simp [unitsFrom_cons, step, hl, hh]

theorem units_of_start {b : UInt8} {p : Unfinished} (h : start b = ⟨[], some p⟩) (rest : Bytes) :
    units (b :: rest) = unitsFrom (some p) rest := by
  rw [units, unitsFrom_cons, step, h]; rfl

theorem start_of_two {b : UInt8} (h₁ : 0xC2 ≤ b.toNat) (h₂ : b.toNat < 0xE0) :
    start b = ⟨[], some ⟨1, b.toNat - 0xC0, 0x80, 0xBF⟩⟩ := by
  have h80 : ¬ b < 0x80 := by rw [UInt8.lt_iff_toNat_lt]; show ¬ _ < 128; omega
  have hC2 : ¬ b < 0xC2 := by rw [UInt8.lt_iff_toNat_lt]; show ¬ _ < 194; omega
  have hE0 : b < 0xE0 := by rw [UInt8.lt_iff_toNat_lt]; show _ < 224; omega
  rw [start, if_neg h80, if_neg hC2, if_pos hE0]

/-- What the first byte of three leaves open: the next byte rules out longer spellings and
surrogates. -/
theorem start_of_three {b : UInt8} (h₁ : 0xE0 ≤ b.toNat) (h₂ : b.toNat < 0xF0) :
    start b = ⟨[], some ⟨2, b.toNat - 0xE0, if b.toNat = 0xE0 then 0xA0 else 0x80,
      if b.toNat = 0xED then 0x9F else 0xBF⟩⟩ := by
  have h80 : ¬ b < 0x80 := by rw [UInt8.lt_iff_toNat_lt]; show ¬ _ < 128; omega
  have hC2 : ¬ b < 0xC2 := by rw [UInt8.lt_iff_toNat_lt]; show ¬ _ < 194; omega
  have hE0 : ¬ b < 0xE0 := by rw [UInt8.lt_iff_toNat_lt]; show ¬ _ < 224; omega
  have hF0 : b < 0xF0 := by rw [UInt8.lt_iff_toNat_lt]; show _ < 240; omega
  rw [start, if_neg h80, if_neg hC2, if_neg hE0]
  by_cases he : b = 0xE0
  · subst he; rfl
  · have he' : ¬ b.toNat = 0xE0 := fun h => he (UInt8.toNat_inj.1 h)
    rw [if_neg he, if_neg he']
    by_cases hd : b = 0xED
    · subst hd; rfl
    · have hd' : ¬ b.toNat = 0xED := fun h => hd (UInt8.toNat_inj.1 h)
      rw [if_neg hd, if_neg hd', if_pos hF0]

/-- What the first byte of four leaves open: the next byte rules out longer spellings and numbers
that are no characters. -/
theorem start_of_four {b : UInt8} (h₁ : 0xF0 ≤ b.toNat) (h₂ : b.toNat ≤ 0xF4) :
    start b = ⟨[], some ⟨3, b.toNat - 0xF0, if b.toNat = 0xF0 then 0x90 else 0x80,
      if b.toNat = 0xF4 then 0x8F else 0xBF⟩⟩ := by
  have hcases : b = 0xF0 ∨ b = 0xF1 ∨ b = 0xF2 ∨ b = 0xF3 ∨ b = 0xF4 := by
    have h : b.toNat = 240 ∨ b.toNat = 241 ∨ b.toNat = 242 ∨ b.toNat = 243 ∨ b.toNat = 244 := by
      omega
    rcases h with h | h | h | h | h
    · exact Or.inl (UInt8.toNat_inj.1 h)
    · exact Or.inr (Or.inl (UInt8.toNat_inj.1 h))
    · exact Or.inr (Or.inr (Or.inl (UInt8.toNat_inj.1 h)))
    · exact Or.inr (Or.inr (Or.inr (Or.inl (UInt8.toNat_inj.1 h))))
    · exact Or.inr (Or.inr (Or.inr (Or.inr (UInt8.toNat_inj.1 h))))
  rcases hcases with rfl | rfl | rfl | rfl | rfl <;> rfl

/-- The byte that holds the last six bits of a number. -/
def continuation (n : Nat) : UInt8 := UInt8.ofNat (n % 64 + 0x80)

theorem toNat_continuation (n : Nat) : (continuation n).toNat = n % 64 + 0x80 := by
  rw [continuation, UInt8.toNat_ofNat']
  omega

theorem continuation_bounds {n : Nat} {low high : UInt8} (hl : low.toNat ≤ n % 64 + 0x80)
    (hh : n % 64 + 0x80 ≤ high.toNat) : low ≤ continuation n ∧ continuation n ≤ high := by
  rw [UInt8.le_iff_toNat_le, UInt8.le_iff_toNat_le, toNat_continuation]
  exact ⟨hl, hh⟩

theorem continuation_range (n : Nat) : 0x80 ≤ continuation n ∧ continuation n ≤ 0xBF :=
  continuation_bounds (by show 128 ≤ _; omega) (by show _ ≤ 191; omega)

theorem units_two_bytes {b : UInt8} (h₁ : 0xC2 ≤ b.toNat) (h₂ : b.toNat < 0xE0) (n : Nat)
    (rest : Bytes) :
    units (b :: continuation n :: rest) =
      some (Char.ofNat ((b.toNat - 0xC0) * 64 + n % 64)) :: units rest := by
  have hn := continuation_range n
  rw [units_of_start (start_of_two h₁ h₂), unitsFrom_last hn.1 hn.2, toNat_continuation,
    Nat.add_sub_cancel]

theorem units_three_bytes {b : UInt8} (h₁ : 0xE0 ≤ b.toNat) (h₂ : b.toNat < 0xF0) {m : Nat}
    (hl : b.toNat = 0xE0 → 0x20 ≤ m % 64) (hh : b.toNat = 0xED → m % 64 < 0x20) (n : Nat)
    (rest : Bytes) :
    units (b :: continuation m :: continuation n :: rest) =
      some (Char.ofNat (((b.toNat - 0xE0) * 64 + m % 64) * 64 + n % 64)) :: units rest := by
  have hm := @continuation_bounds m (if b.toNat = 0xE0 then 0xA0 else 0x80)
    (if b.toNat = 0xED then 0x9F else 0xBF)
    (by split
        · show 160 ≤ _; omega
        · show 128 ≤ _; omega)
    (by split
        · show _ ≤ 159; omega
        · show _ ≤ 191; omega)
  have hn := continuation_range n
  rw [units_of_start (start_of_three h₁ h₂), unitsFrom_inner hm.1 hm.2, unitsFrom_last hn.1 hn.2,
    toNat_continuation, toNat_continuation, Nat.add_sub_cancel, Nat.add_sub_cancel]

theorem units_four_bytes {b : UInt8} (h₁ : 0xF0 ≤ b.toNat) (h₂ : b.toNat ≤ 0xF4) {l : Nat}
    (hl : b.toNat = 0xF0 → 0x10 ≤ l % 64) (hh : b.toNat = 0xF4 → l % 64 < 0x10) (m n : Nat)
    (rest : Bytes) :
    units (b :: continuation l :: continuation m :: continuation n :: rest) =
      some (Char.ofNat ((((b.toNat - 0xF0) * 64 + l % 64) * 64 + m % 64) * 64 + n % 64)) ::
        units rest := by
  have hlow := @continuation_bounds l (if b.toNat = 0xF0 then 0x90 else 0x80)
    (if b.toNat = 0xF4 then 0x8F else 0xBF)
    (by split
        · show 144 ≤ _; omega
        · show 128 ≤ _; omega)
    (by split
        · show _ ≤ 143; omega
        · show _ ≤ 191; omega)
  have hm := continuation_range m
  have hn := continuation_range n
  rw [units_of_start (start_of_four h₁ h₂), unitsFrom_inner hlow.1 hlow.2,
    unitsFrom_inner hm.1 hm.2, unitsFrom_last hn.1 hn.2, toNat_continuation, toNat_continuation,
    toNat_continuation, Nat.add_sub_cancel, Nat.add_sub_cancel, Nat.add_sub_cancel]

/-- The number of a character is no surrogate and not too large. -/
theorem isValidChar (c : Char) : c.toNat < 0xD800 ∨ (0xDFFF < c.toNat ∧ c.toNat < 0x110000) :=
  c.valid

/-- **One character** is decoded to itself, whatever follows it. -/
theorem units_encodeChar_append (c : Char) (rest : Bytes) :
    units (String.utf8EncodeChar c ++ rest) = some c :: units rest := by
  have hc := isValidChar c
  have hof : ∀ n, n = c.toNat → some (Char.ofNat n) :: units rest = some c :: units rest := by
    rintro n rfl
    rw [Char.ofNat_toNat]
  have hv : c.val.toNat = c.toNat := rfl
  fun_cases String.utf8EncodeChar c with
  | case1 v h₁ =>
    have hb : (UInt8.ofNat v).toNat = v := by rw [UInt8.toNat_ofNat']; omega
    have hlt : UInt8.ofNat v < 0x80 := by rw [UInt8.lt_iff_toNat_lt, hb]; show _ < 128; omega
    rw [List.singleton_append]
    have h := units_append_of_ascii [] hlt rest
    rw [List.nil_append, units_nil, List.nil_append] at h
    rw [h, hb]
    exact hof v rfl
  | case2 v h₁ h₂ =>
    have hb : (UInt8.ofNat (v / 64 % 32 + 192)).toNat = v / 64 + 192 := by
      rw [UInt8.toNat_ofNat']; omega
    refine (units_two_bytes (by omega) (by omega) v rest).trans ?_
    rw [hb]
    exact hof _ (by omega)
  | case3 v h₁ h₂ h₃ =>
    have hb : (UInt8.ofNat (v / 4096 % 16 + 224)).toNat = v / 4096 + 224 := by
      rw [UInt8.toNat_ofNat']; omega
    refine (units_three_bytes (by omega) (by omega) (m := v / 64) (by omega) (by omega) v
      rest).trans ?_
    rw [hb]
    exact hof _ (by omega)
  | case4 v h₁ h₂ h₃ =>
    have hb : (UInt8.ofNat (v / 262144 % 8 + 240)).toNat = v / 262144 + 240 := by
      rw [UInt8.toNat_ofNat']; omega
    refine (units_four_bytes (by omega) (by omega) (l := v / 4096) (by omega) (by omega) (v / 64) v
      rest).trans ?_
    rw [hb]
    exact hof _ (by omega)

/-! ### Texts -/

/-- **An encoded text** is decoded to itself, whatever follows it. -/
theorem units_encode_append (text : List Char) (rest : Bytes) :
    units (encode text ++ rest) = text.map some ++ units rest := by
  induction text with
  | nil => rfl
  | cons c text ih =>
    rw [encode_cons, List.append_assoc, units_encodeChar_append, ih]
    rfl

theorem units_encode (text : List Char) : units (encode text) = text.map some := by
  have h := units_encode_append text []
  rwa [List.append_nil, units_nil, List.append_nil] at h

@[simp] theorem decode?_encode (text : List Char) : decode? (encode text) = some text :=
  decode?_eq_some_iff.2 (units_encode text)

theorem ofString_inj {s t : String} : Bytes.ofString s = Bytes.ofString t ↔ s = t := by
  refine ⟨fun h => ?_, congrArg Bytes.ofString⟩
  have hdecode := congrArg decode? h
  rw [ofString_eq_encode, ofString_eq_encode, decode?_encode, decode?_encode] at hdecode
  exact String.toList_inj.1 (Option.some.inj hdecode)

/-- The character with the code of an ASCII byte. -/
def asciiChar (b : UInt8) : Char := Char.ofNat b.toNat

theorem toNat_asciiChar (b : UInt8) : (asciiChar b).toNat = b.toNat := by
  have hb : b.toNat.isValidChar := Or.inl (by have := b.toNat_lt; omega)
  rw [asciiChar, Char.ofNat, dif_pos hb]
  rfl

theorem asciiChar_ofNat {c : Char} (h : c.toNat < 0x80) : asciiChar (UInt8.ofNat c.toNat) = c := by
  rw [asciiChar, UInt8.toNat_ofNat', Nat.mod_eq_of_lt (by omega), Char.ofNat_toNat]

/-- A character in ASCII is encoded as its code. -/
theorem encodeChar_of_ascii {c : Char} (h : c.toNat < 0x80) :
    String.utf8EncodeChar c = [UInt8.ofNat c.toNat] := by
  have hv : c.val.toNat = c.toNat := rfl
  fun_cases String.utf8EncodeChar c with
  | case1 => rfl
  | case2 => omega
  | case3 => omega
  | case4 => omega

/-- ASCII bytes are read as the characters with their codes. -/
theorem units_ascii_append {s : Bytes} (h : ∀ b ∈ s, b < 0x80) (rest : Bytes) :
    units (s ++ rest) = (s.map asciiChar).map some ++ units rest := by
  induction s with
  | nil => rfl
  | cons b s ih =>
    have hs := units_append_of_ascii [] (h b List.mem_cons_self) (s ++ rest)
    rw [List.nil_append, units_nil, List.nil_append] at hs
    rw [List.cons_append, hs, ih fun b hb => h b (List.mem_cons_of_mem _ hb)]
    rfl

theorem map_asciiChar_encode {text : List Char} (h : ∀ c ∈ text, c.toNat < 0x80) :
    (encode text).map asciiChar = text := by
  induction text with
  | nil => rfl
  | cons c text ih =>
    have hc := h c List.mem_cons_self
    rw [encode_cons, List.map_append, ih fun d hd => h d (List.mem_cons_of_mem _ hd),
      encodeChar_of_ascii hc, List.map_singleton, asciiChar_ofNat hc]
    rfl

theorem decode?_ascii {s : Bytes} (h : ∀ b ∈ s, b < 0x80) : decode? s = some (s.map asciiChar) := by
  have hs := units_ascii_append h []
  rw [List.append_nil, units_nil, List.append_nil] at hs
  exact decode?_eq_some_iff.2 hs

/-! ### ASCII in an encoded text -/

/-- **An ASCII byte in an encoded text** stands for itself. -/
theorem mem_of_mem_encode {text : List Char} {b : UInt8} (hb : b < 0x80) (h : b ∈ encode text) :
    asciiChar b ∈ text := by
  obtain ⟨u, v, huv⟩ := List.append_of_mem h
  have hu := units_encode text
  rw [huv, units_append_of_ascii u hb v] at hu
  have hm : some (asciiChar b) ∈ text.map some := by
    rw [← hu]
    simp [asciiChar]
  simpa using hm

/-- ASCII bytes in an encoded text stand for the characters with their codes. -/
theorem infix_of_encode_infix {text : List Char} {s : Bytes} (hs : ∀ b ∈ s, b < 0x80) (hne : s ≠ [])
    (h : s <:+: encode text) : s.map asciiChar <:+: text := by
  obtain ⟨u, v, huv⟩ := h
  obtain ⟨b, t, rfl⟩ := List.exists_cons_of_ne_nil hne
  have hu := units_encode text
  rw [← huv, List.append_assoc, List.cons_append,
    units_append_of_ascii u (hs b List.mem_cons_self),
    units_ascii_append fun b hb => hs b (List.mem_cons_of_mem _ hb)] at hu
  have hi : ((b :: t).map asciiChar).map some <:+: text.map some :=
    ⟨units u, units v, by rw [← hu]; simp [asciiChar]⟩
  have hf := hi.filterMap id
  simpa [List.filterMap_map] using hf

/-- An encoded text that ends with an ASCII byte ends with its character. -/
theorem getLast?_of_encode_eq_concat {text : List Char} {s : Bytes} {b : UInt8} (hb : b < 0x80)
    (h : encode text = s ++ [b]) : text.getLast? = some (asciiChar b) := by
  have hu := units_encode text
  rw [h, units_append_of_ascii s hb []] at hu
  have hl := congrArg List.getLast? hu
  rw [units_nil, List.getLast?_concat, List.getLast?_map] at hl
  simpa [asciiChar] using hl.symm

/-- What stands between two ASCII bytes of a text is a piece of the text. -/
theorem exists_infix_of_decode? {a s b : Bytes} {x y : UInt8} {text : List Char} (hx : x < 0x80)
    (hy : y < 0x80) (h : decode? (a ++ x :: (s ++ y :: b)) = some text) :
    ∃ piece, decode? s = some piece ∧ piece <:+: text := by
  have hunits := (decode?_eq_some_iff.1 h).symm
  rw [units_append_of_ascii a hx, units_append_of_ascii s hy, List.map_eq_append_iff] at hunits
  obtain ⟨before, more, rfl, -, hmore⟩ := hunits
  obtain ⟨c, inner, rfl, -, hinner⟩ := List.map_eq_cons_iff.1 hmore
  obtain ⟨piece, after, rfl, hpiece, -⟩ := List.map_eq_append_iff.1 hinner
  exact ⟨piece, decode?_eq_some_iff.2 hpiece.symm, before ++ [c], after, by simp⟩

/-! ### What strict decoding accepts -/

theorem toNat_ofNat {n : Nat} (h : n < 0xD800 ∨ (0xDFFF < n ∧ n < 0x110000)) :
    (Char.ofNat n).toNat = n := by
  have hv : n.isValidChar := h
  rw [Char.ofNat, dif_pos hv]
  rfl

theorem ofNat_eq {n : Nat} {b : UInt8} (h : n = b.toNat) : UInt8.ofNat n = b := by
  rw [h, UInt8.ofNat_toNat]

/-- The range of a byte that may continue a character, unless the byte before it narrows it. -/
theorem toNat_range {d : UInt8} (h : 0x80 ≤ d ∧ d ≤ 0xBF) : 128 ≤ d.toNat ∧ d.toNat ≤ 191 :=
  ⟨UInt8.le_iff_toNat_le.1 h.1, UInt8.le_iff_toNat_le.1 h.2⟩

/-- The range of the byte behind the first one, which some first bytes narrow. -/
theorem toNat_range_of_ite {d low high : UInt8} {p q : Prop} [Decidable p] [Decidable q]
    (h : (if p then low else 0x80) ≤ d ∧ d ≤ if q then high else 0xBF) (hl : 0x80 ≤ low)
    (hh : high ≤ 0xBF) :
    (128 ≤ d.toNat ∧ d.toNat ≤ 191) ∧ (p → low.toNat ≤ d.toNat) ∧ (q → d.toNat ≤ high.toNat) := by
  have hlow : 0x80 ≤ d ∧ (p → low ≤ d) := by
    by_cases hp : p
    · rw [if_pos hp] at h
      exact ⟨UInt8.le_trans hl h.1, fun _ => h.1⟩
    · rw [if_neg hp] at h
      exact ⟨h.1, fun hp' => absurd hp' hp⟩
  have hhigh : d ≤ 0xBF ∧ (q → d ≤ high) := by
    by_cases hq : q
    · rw [if_pos hq] at h
      exact ⟨UInt8.le_trans h.2 hh, fun _ => h.2⟩
    · rw [if_neg hq] at h
      exact ⟨h.2, fun hq' => absurd hq' hq⟩
  exact ⟨toNat_range ⟨hlow.1, hhigh.1⟩, fun hp => UInt8.le_iff_toNat_le.1 (hlow.2 hp),
    fun hq => UInt8.le_iff_toNat_le.1 (hhigh.2 hq)⟩

/-- A byte with which no character starts. -/
theorem start_of_none {b : UInt8} (h : 0x80 ≤ b.toNat ∧ b.toNat < 0xC2 ∨ 0xF4 < b.toNat) :
    start b = ⟨[none], none⟩ := by
  have h80 : ¬ b < 0x80 := by rw [UInt8.lt_iff_toNat_lt]; show ¬ _ < 128; omega
  rw [start, if_neg h80]
  by_cases hC2 : b < 0xC2
  · rw [if_pos hC2]
  have hb : 0xF4 < b.toNat := by
    have : ¬ b.toNat < 194 := fun h => hC2 (UInt8.lt_iff_toNat_lt.2 h)
    omega
  have hlt : ∀ d : UInt8, d.toNat ≤ 0xF4 → ¬ b < d := by
    intro d hd
    rw [UInt8.lt_iff_toNat_lt]
    omega
  have hne : ∀ d : UInt8, d.toNat ≤ 0xF4 → ¬ b = d := by
    rintro d hd rfl
    omega
  rw [if_neg hC2, if_neg (hlt 0xE0 (by decide)), if_neg (hne 0xE0 (by decide)),
    if_neg (hne 0xED (by decide)), if_neg (hlt 0xF0 (by decide)), if_neg (hne 0xF0 (by decide)),
    if_neg (hlt 0xF4 (by decide)), if_neg (hne 0xF4 (by decide))]

theorem encodeChar_of_two {b d : UInt8} (h₁ : 0xC2 ≤ b.toNat) (h₂ : b.toNat < 0xE0)
    (hd : 0x80 ≤ d ∧ d ≤ 0xBF) :
    String.utf8EncodeChar (Char.ofNat ((b.toNat - 0xC0) * 64 + (d.toNat - 0x80))) = [b, d] := by
  have hd := toNat_range hd
  have hn := toNat_ofNat (n := (b.toNat - 0xC0) * 64 + (d.toNat - 0x80)) (by omega)
  generalize Char.ofNat ((b.toNat - 0xC0) * 64 + (d.toNat - 0x80)) = c at hn
  have hv : c.val.toNat = c.toNat := rfl
  fun_cases String.utf8EncodeChar c with
  | case1 => omega
  | case2 v => rw [ofNat_eq (b := b) (by omega), ofNat_eq (b := d) (by omega)]
  | case3 => omega
  | case4 => omega

theorem encodeChar_of_three {b d e : UInt8} (h₁ : 0xE0 ≤ b.toNat) (h₂ : b.toNat < 0xF0)
    (hd : 128 ≤ d.toNat ∧ d.toNat ≤ 191) (hlow : b.toNat = 0xE0 → 0xA0 ≤ d.toNat)
    (hhigh : b.toNat = 0xED → d.toNat ≤ 0x9F) (he : 0x80 ≤ e ∧ e ≤ 0xBF) :
    String.utf8EncodeChar (Char.ofNat (((b.toNat - 0xE0) * 64 + (d.toNat - 0x80)) * 64 +
      (e.toNat - 0x80))) = [b, d, e] := by
  have he := toNat_range he
  have hn := toNat_ofNat
    (n := ((b.toNat - 0xE0) * 64 + (d.toNat - 0x80)) * 64 + (e.toNat - 0x80)) (by omega)
  generalize Char.ofNat (((b.toNat - 0xE0) * 64 + (d.toNat - 0x80)) * 64 + (e.toNat - 0x80)) = c
    at hn
  have hv : c.val.toNat = c.toNat := rfl
  fun_cases String.utf8EncodeChar c with
  | case1 => omega
  | case2 => omega
  | case3 v =>
    rw [ofNat_eq (b := b) (by omega), ofNat_eq (b := d) (by omega), ofNat_eq (b := e) (by omega)]
  | case4 => omega

theorem encodeChar_of_four {b d e f : UInt8} (h₁ : 0xF0 ≤ b.toNat) (h₂ : b.toNat ≤ 0xF4)
    (hd : 128 ≤ d.toNat ∧ d.toNat ≤ 191) (hlow : b.toNat = 0xF0 → 0x90 ≤ d.toNat)
    (hhigh : b.toNat = 0xF4 → d.toNat ≤ 0x8F) (he : 0x80 ≤ e ∧ e ≤ 0xBF)
    (hf : 0x80 ≤ f ∧ f ≤ 0xBF) :
    String.utf8EncodeChar (Char.ofNat ((((b.toNat - 0xF0) * 64 + (d.toNat - 0x80)) * 64 +
      (e.toNat - 0x80)) * 64 + (f.toNat - 0x80))) = [b, d, e, f] := by
  have he := toNat_range he
  have hf := toNat_range hf
  have hn := toNat_ofNat (n := (((b.toNat - 0xF0) * 64 + (d.toNat - 0x80)) * 64 +
    (e.toNat - 0x80)) * 64 + (f.toNat - 0x80)) (by omega)
  generalize Char.ofNat ((((b.toNat - 0xF0) * 64 + (d.toNat - 0x80)) * 64 + (e.toNat - 0x80)) * 64 +
    (f.toNat - 0x80)) = c at hn
  have hv : c.val.toNat = c.toNat := rfl
  fun_cases String.utf8EncodeChar c with
  | case1 => omega
  | case2 => omega
  | case3 => omega
  | case4 v =>
    rw [ofNat_eq (b := b) (by omega), ofNat_eq (b := d) (by omega), ofNat_eq (b := e) (by omega),
      ofNat_eq (b := f) (by omega)]

variable {value : Nat} {low high : UInt8} {s : Bytes} {text : List Char}

/-- A character that lacks one byte and is decoded is completed by the next one. -/
theorem exists_last_of_unitsFrom (h : unitsFrom (some ⟨1, value, low, high⟩) s = text.map some) :
    ∃ d rest more, s = d :: rest ∧ (low ≤ d ∧ d ≤ high) ∧
      text = Char.ofNat (value * 64 + (d.toNat - 0x80)) :: more ∧ units rest = more.map some := by
  cases s with
  | nil => cases text <;> simp [finish] at h
  | cons d rest =>
    by_cases hd : low ≤ d ∧ d ≤ high
    · rw [unitsFrom_last hd.1 hd.2] at h
      cases text with
      | nil => simp at h
      | cons c more =>
        rw [List.map_cons, List.cons.injEq, Option.some.injEq] at h
        exact ⟨d, rest, more, rfl, hd, by rw [h.1], h.2⟩
    · rw [unitsFrom_cons, step] at h
      simp only [if_neg hd] at h
      cases text <;> simp at h

/-- A character that lacks more bytes and is decoded goes on with the next one. -/
theorem exists_inner_of_unitsFrom {missing : Nat}
    (h : unitsFrom (some ⟨missing + 2, value, low, high⟩) s = text.map some) :
    ∃ d rest, s = d :: rest ∧ (low ≤ d ∧ d ≤ high) ∧
      unitsFrom (some ⟨missing + 1, value * 64 + (d.toNat - 0x80), 0x80, 0xBF⟩) rest =
        text.map some := by
  cases s with
  | nil => cases text <;> simp [finish] at h
  | cons d rest =>
    by_cases hd : low ≤ d ∧ d ≤ high
    · rw [unitsFrom_inner hd.1 hd.2] at h
      exact ⟨d, rest, rfl, hd, h⟩
    · rw [unitsFrom_cons, step] at h
      simp only [if_neg hd] at h
      cases text <;> simp at h

/-- The bytes that a decoded text begins with are those of its first character. -/
theorem exists_encodeChar_of_units {b : UInt8} {s : Bytes} {text : List Char}
    (h : units (b :: s) = text.map some) :
    ∃ c more rest, text = c :: more ∧ b :: s = String.utf8EncodeChar c ++ rest ∧
      units rest = more.map some := by
  by_cases h80 : b.toNat < 0x80
  · have hb : b < 0x80 := UInt8.lt_iff_toNat_lt.2 h80
    have hu := units_append_of_ascii [] hb s
    rw [List.nil_append, h, units_nil, List.nil_append] at hu
    cases text with
    | nil => simp at hu
    | cons c more =>
      rw [List.map_cons, List.cons.injEq, Option.some.injEq] at hu
      have hc : c.toNat = b.toNat := by rw [hu.1, toNat_ofNat (by omega)]
      refine ⟨c, more, s, rfl, ?_, hu.2.symm⟩
      rw [encodeChar_of_ascii (by omega), hc, UInt8.ofNat_toNat]
      rfl
  by_cases hE0 : 0xC2 ≤ b.toNat ∧ b.toNat < 0xE0
  · rw [units_of_start (start_of_two hE0.1 hE0.2)] at h
    obtain ⟨d, rest, more, rfl, hd, rfl, hr⟩ := exists_last_of_unitsFrom h
    exact ⟨_, more, rest, rfl, by rw [encodeChar_of_two hE0.1 hE0.2 hd]; rfl, hr⟩
  by_cases hF0 : 0xE0 ≤ b.toNat ∧ b.toNat < 0xF0
  · rw [units_of_start (start_of_three hF0.1 hF0.2)] at h
    obtain ⟨d, s', rfl, hd, h⟩ := exists_inner_of_unitsFrom h
    obtain ⟨e, rest, more, rfl, he, rfl, hr⟩ := exists_last_of_unitsFrom h
    obtain ⟨hd, hlow, hhigh⟩ := toNat_range_of_ite hd (by decide) (by decide)
    refine ⟨_, more, rest, rfl, ?_, hr⟩
    rw [encodeChar_of_three hF0.1 hF0.2 hd hlow hhigh he]
    rfl
  by_cases hF4 : 0xF0 ≤ b.toNat ∧ b.toNat ≤ 0xF4
  · rw [units_of_start (start_of_four hF4.1 hF4.2)] at h
    obtain ⟨d, s', rfl, hd, h⟩ := exists_inner_of_unitsFrom h
    obtain ⟨e, s', rfl, he, h⟩ := exists_inner_of_unitsFrom h
    obtain ⟨f, rest, more, rfl, hf, rfl, hr⟩ := exists_last_of_unitsFrom h
    obtain ⟨hd, hlow, hhigh⟩ := toNat_range_of_ite hd (by decide) (by decide)
    refine ⟨_, more, rest, rfl, ?_, hr⟩
    rw [encodeChar_of_four hF4.1 hF4.2 hd hlow hhigh he hf]
    rfl
  · -- No character starts with such a byte.
    rw [units, unitsFrom_cons, step, start_of_none (by omega)] at h
    cases text <;> simp at h

/-- **Strict decoding accepts** the encoded texts and nothing else. -/
theorem decode?_eq_some_iff_eq_encode {s : Bytes} {text : List Char} :
    decode? s = some text ↔ s = encode text := by
  constructor
  · intro h
    rw [decode?_eq_some_iff] at h
    induction hn : s.length using Nat.strongRecOn generalizing s text with
    | ind n ih =>
      cases s with
      | nil => cases text <;> simp at h ⊢
      | cons b s =>
        obtain ⟨c, more, rest, rfl, hs, hr⟩ := exists_encodeChar_of_units h
        have hlen : rest.length < n := by
          have hpos := String.length_utf8EncodeChar c
          have := congrArg List.length hs
          have := Char.utf8Size_pos c
          rw [List.length_append] at *
          omega
        rw [hs, ih _ hlen hr rfl, encode_cons]
  · rintro rfl
    exact decode?_encode text

/-! ### What lossy decoding leaves -/

/-- A byte settles something or leaves a character open. -/
theorem emitted_ne_nil_or_state (p : Option Unfinished) (b : UInt8) :
    (step p b).emitted ≠ [] ∨ ∃ q, (step p b).state = some q := by
  have hstart : (start b).emitted ≠ [] ∨ ∃ q, (start b).state = some q := by
    unfold start
    repeat' split
    all_goals simp
  cases p with
  | none => exact hstart
  | some p =>
    unfold step
    simp only
    split
    · split <;> simp
    · exact Or.inl (List.cons_ne_nil _ _)

/-- A character that is open is a character or a failure in the end. -/
theorem unitsFrom_some_ne_nil (p : Unfinished) (s : Bytes) : unitsFrom (some p) s ≠ [] := by
  induction s generalizing p with
  | nil => exact List.cons_ne_nil _ _
  | cons b rest ih =>
    rw [unitsFrom_cons]
    rcases emitted_ne_nil_or_state (some p) b with h | ⟨q, hq⟩
    · exact List.append_ne_nil_of_left_ne_nil h _
    · rw [hq]
      exact List.append_ne_nil_of_right_ne_nil _ (ih q)

theorem units_eq_nil_iff {s : Bytes} : units s = [] ↔ s = [] := by
  refine ⟨fun h => ?_, fun h => h ▸ units_nil⟩
  cases s with
  | nil => rfl
  | cons b rest =>
    rw [units, unitsFrom_cons, List.append_eq_nil_iff] at h
    obtain ⟨he, hr⟩ := h
    rcases emitted_ne_nil_or_state none b with hb | ⟨q, hq⟩
    · exact absurd he hb
    · rw [hq] at hr
      exact absurd hr (unitsFrom_some_ne_nil q rest)

/-- **Lossy decoding** makes no text empty. -/
theorem decodeLossy_eq_nil_iff {s : Bytes} : decodeLossy s = [] ↔ s = [] := by
  rw [decodeLossy, List.map_eq_nil_iff, units_eq_nil_iff]

/-- Without U+FFFD in the text, nothing was lost: the bytes are well-formed. -/
theorem decode?_of_not_mem_decodeLossy {s : Bytes} (h : '\uFFFD' ∉ decodeLossy s) :
    decode? s = some (decodeLossy s) := by
  rw [decode?_eq_some_iff]
  rw [decodeLossy] at h ⊢
  rw [List.map_map]
  refine (List.map_id _).symm.trans (List.map_congr_left fun u hu => ?_)
  cases u with
  | none => exact absurd (List.mem_map.2 ⟨none, hu, rfl⟩) h
  | some c => rfl

theorem encode_eq_nil_iff {text : List Char} : encode text = [] ↔ text = [] := by
  have h := units_encode text
  rw [← units_eq_nil_iff, h, List.map_eq_nil_iff]

theorem utf8ByteSize_ofList (text : List Char) :
    (String.ofList text).utf8ByteSize = (encode text).length := by
  rw [← String.size_toByteArray, String.toByteArray_ofList, List.utf8Encode]
  exact List.size_toByteArray

theorem eq_ofString_of_decode? {s : Bytes} {text : List Char} (h : decode? s = some text) :
    s = Bytes.ofString (String.ofList text) := by
  rw [ofString_eq_encode, String.toList_ofList]
  exact decode?_eq_some_iff_eq_encode.1 h

end FormReply.Utf8
