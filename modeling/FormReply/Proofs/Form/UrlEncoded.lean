import FormReply.Form.FirstOccurrence
import FormReply.Form.UrlEncoded.Spelling
import FormReply.Proofs.Form.Body
import FormReply.Proofs.Lists
import FormReply.Proofs.Text.Utf8

/-!
# Reading the spellings of a URL-encoded form

Whatever spelling is chosen for each character, a URL-encoded text is read as the pairs that it was
written for.  A separator is never part of a spelling, so a text is cut where its pairs were put
together; a `+` that is meant as such is spelled by its escape, so `+` may be read as a space
before the escapes are decoded.

* `decodeComponent_of_spells`: a name or a value is read back;
* `pairField?_of_spellsPair`: a pair is read back;
* `fields_of_spellsForm`: **the fields of a spelling** are its pairs, in order;
* `form_of_spelling`: the form of a query string and of a body.
-/

namespace FormReply.UrlEncoded

open FormReply.Utf8 (encode asciiChar)

/-! ### Escapes -/

theorem isAlphanum_hexChar (upper : Bool) {n : Nat} (h : n < 16) :
    (hexChar upper n).isAlphanum = true := by
  have hall : ∀ upper, ∀ n < 16, (hexChar upper n).isAlphanum = true := by decide
  exact hall upper n h

/-- A digit of either case is read as its number. -/
theorem hexValue?_hexChar (upper : Bool) {n : Nat} (h : n < 16) :
    String.utf8EncodeChar (hexChar upper n) = [UInt8.ofNat (hexChar upper n).toNat] ∧
      hexValue? (UInt8.ofNat (hexChar upper n).toNat) = some (UInt8.ofNat n) := by
  have hall : ∀ upper, ∀ n < 16,
      String.utf8EncodeChar (hexChar upper n) = [UInt8.ofNat (hexChar upper n).toNat] ∧
        hexValue? (UInt8.ofNat (hexChar upper n).toNat) = some (UInt8.ofNat n) := by decide
  exact hall upper n h

/-- Two digits are read as the byte that they were written for. -/
theorem hexPair?_of_digits (b : UInt8) {high low : UInt8}
    (hh : hexValue? high = some (UInt8.ofNat (b.toNat / 16)))
    (hl : hexValue? low = some (UInt8.ofNat (b.toNat % 16))) : hexPair? high low = some b := by
  have hb := b.toNat_lt
  have hsum : UInt8.ofNat (b.toNat / 16) * 16 + UInt8.ofNat (b.toNat % 16) = b := by
    rw [← UInt8.toNat_inj, UInt8.toNat_add, UInt8.toNat_mul, UInt8.toNat_ofNat',
      UInt8.toNat_ofNat']
    show (b.toNat / 16 % 256 * 16 % 256 + b.toNat % 16 % 256) % 256 = b.toNat
    omega
  simp [hexPair?, hh, hl, hsum]

/-- An escape is a `%` and letters and digits. -/
theorem EscapesTo.mem {bytes : Bytes} {escape : List Char} (h : EscapesTo bytes escape) :
    ∀ c ∈ escape, c = '%' ∨ c.isAlphanum = true := by
  induction h with
  | nil => simp
  | cons b upperHigh upperLow _ ih =>
    have hb := b.toNat_lt
    intro c hc
    rcases List.mem_cons.1 hc with rfl | hc
    · exact Or.inl rfl
    rcases List.mem_cons.1 hc with rfl | hc
    · exact Or.inr (isAlphanum_hexChar upperHigh (by omega))
    rcases List.mem_cons.1 hc with rfl | hc
    · exact Or.inr (isAlphanum_hexChar upperLow (by omega))
    · exact ih c hc

/-- An escape holds no `+`. -/
theorem EscapesTo.map_plusToSpace {bytes : Bytes} {escape : List Char}
    (h : EscapesTo bytes escape) : escape.map plusToSpace = escape := by
  have hid : ∀ c ∈ escape, plusToSpace c = c := by
    intro c hc
    have hplus : c ≠ '+' := by
      rintro rfl
      exact absurd (h.mem '+' hc) (by decide)
    exact if_neg hplus
  exact (List.map_congr_left hid).trans (List.map_id' escape)

/-- **Escaped bytes** are read back. -/
theorem EscapesTo.percentDecode {bytes : Bytes} {escape : List Char} (h : EscapesTo bytes escape)
    (rest : Bytes) :
    UrlEncoded.percentDecode (encode escape ++ rest) =
      bytes ++ UrlEncoded.percentDecode rest := by
  induction h with
  | nil => rfl
  | cons b upperHigh upperLow _ ih =>
    have hb := b.toNat_lt
    obtain ⟨eh, hh⟩ := hexValue?_hexChar upperHigh (n := b.toNat / 16) (by omega)
    obtain ⟨el, hl⟩ := hexValue?_hexChar upperLow (n := b.toNat % 16) (by omega)
    rw [Utf8.encode_cons, Utf8.encode_cons, Utf8.encode_cons, eh, el]
    show UrlEncoded.percentDecode (0x25 :: _ :: _ :: _) = _
    rw [percentDecode_escape (hexPair?_of_digits b hh hl)]
    exact congrArg (b :: ·) ih

/-! ### Names and values -/

/-- Bytes other than `%` are kept. -/
theorem percentDecode_append_of_not_mem {s : Bytes} (h : 0x25 ∉ s) (rest : Bytes) :
    percentDecode (s ++ rest) = s ++ percentDecode rest := by
  induction s with
  | nil => rfl
  | cons b s ih =>
    rw [List.mem_cons, not_or] at h
    rw [List.cons_append, percentDecode_literal (Ne.symm h.1), ih h.2, List.cons_append]

theorem percent_not_mem_encodeChar {c : Char} (h : c ≠ '%') :
    0x25 ∉ String.utf8EncodeChar c := by
  intro hm
  have hm' : 0x25 ∈ encode [c] := by simpa using hm
  exact h (List.mem_singleton.1 (Utf8.mem_of_mem_encode (by decide) hm')).symm

variable {plain : Char → Prop} {text spelled : List Char}

/-- A spelling holds a character that may not stand for itself only if it belongs to escapes. -/
theorem Spells.not_mem (h : Spells plain text spelled) {c : Char} (hc : ¬ plain c)
    (hpercent : c ≠ '%') (hplus : c ≠ '+') (ha : c.isAlphanum = false) : c ∉ spelled := by
  induction h with
  | nil => simp
  | literal hd _ ih =>
    rw [List.mem_cons, not_or]
    refine ⟨?_, ih⟩
    rintro rfl
    exact hc hd
  | plus _ ih =>
    rw [List.mem_cons, not_or]
    exact ⟨hplus, ih⟩
  | escaped he _ ih =>
    rw [List.mem_append, not_or]
    refine ⟨fun hm => ?_, ih⟩
    rcases he.mem c hm with h | h
    · exact hpercent h
    · rw [ha] at h
      exact absurd h (by decide)

/-- Only the empty text is spelled by nothing. -/
theorem Spells.eq_nil_iff (h : Spells plain text spelled) : spelled = [] ↔ text = [] := by
  cases h with
  | nil => simp
  | literal => simp
  | plus => simp
  | @escaped c text escape spelled he h =>
    have hne : escape ≠ [] := by
      rintro rfl
      generalize hb : String.utf8EncodeChar c = bytes at he
      cases he
      exact absurd hb (String.utf8EncodeChar_ne_nil)
    simp [hne]

/-- The bytes of a spelling are decoded to those of the text. -/
theorem Spells.percentDecode (h : Spells plain text spelled)
    (hplain : ∀ c, plain c → c ≠ '%' ∧ c ≠ '+') (rest : Bytes) :
    UrlEncoded.percentDecode (encode (spelled.map plusToSpace) ++ rest) =
      encode text ++ UrlEncoded.percentDecode rest := by
  induction h with
  | nil => rfl
  | @literal c _ _ hc _ ih =>
    obtain ⟨hpercent, hplus⟩ := hplain c hc
    have hp : plusToSpace c = c := if_neg hplus
    rw [List.map_cons, hp, Utf8.encode_cons, List.append_assoc,
      percentDecode_append_of_not_mem (percent_not_mem_encodeChar hpercent), ih,
      Utf8.encode_cons, List.append_assoc]
  | plus _ ih =>
    have hp : plusToSpace '+' = ' ' := rfl
    rw [List.map_cons, hp, Utf8.encode_cons, List.append_assoc,
      percentDecode_append_of_not_mem (percent_not_mem_encodeChar (by decide)), ih,
      Utf8.encode_cons, List.append_assoc]
  | escaped hc _ ih =>
    rw [List.map_append, hc.map_plusToSpace, Utf8.encode_append, List.append_assoc,
      hc.percentDecode, ih, Utf8.encode_cons, List.append_assoc]

/-- **A name or a value** is read back from any of its spellings. -/
theorem decodeComponent_of_spells (h : Spells plain text spelled)
    (hplain : ∀ c, plain c → c ≠ '%' ∧ c ≠ '+') :
    decodeComponent spelled = String.ofList text := by
  have hd := h.percentDecode hplain []
  rw [List.append_nil, percentDecode_nil, List.append_nil] at hd
  rw [decodeComponent, hd, Utf8.decodeLossy_of_decode? (Utf8.decode?_encode text)]

/-! ### Pairs -/

/-- The field that a pair of a name and a value makes. -/
def pairField (pair : String × String) : Field := ⟨pair.1, some pair.2⟩

/-- The pair is not dropped for its empty value. -/
def isKept (keepBlank : Bool) (pair : String × String) : Bool := keepBlank || pair.2 ≠ ""

instance (c : Char) : Decidable (IsPlainInValue c) :=
  inferInstanceAs (Decidable (_ ∧ _ ∧ _))

instance (c : Char) : Decidable (IsPlainInName c) := inferInstanceAs (Decidable (_ ∧ _))

theorem IsPlainInValue.ne {c : Char} (h : IsPlainInValue c) : c ≠ '%' ∧ c ≠ '+' := ⟨h.1, h.2.1⟩

theorem SpellsPair.separator_not_mem {pair : String × String} (h : SpellsPair pair spelled) :
    '&' ∉ spelled := by
  obtain ⟨name, value, hn, hv, rfl⟩ := h
  have hname : '&' ∉ name :=
    hn.not_mem (fun h => h.1.2.2 rfl) (by decide) (by decide) (by decide)
  have hvalue : '&' ∉ value :=
    hv.not_mem (fun h => h.2.2 rfl) (by decide) (by decide) (by decide)
  simp [hname, hvalue]

/-- **A pair** is read back from any of its spellings, unless its value is empty and blank values
are not kept. -/
theorem pairField?_of_spellsPair {pair : String × String} (h : SpellsPair pair spelled)
    (keepBlank : Bool) :
    pairField? keepBlank spelled =
      if isKept keepBlank pair then some (pairField pair) else none := by
  obtain ⟨name, value, hn, hv, rfl⟩ := h
  have hequals : ∀ c ∈ name, decide (c ≠ '=') = true := by
    intro c hc
    have hname : '=' ∉ name := hn.not_mem (fun h => h.2 rfl) (by decide) (by decide) (by decide)
    rw [decide_eq_true_iff]
    rintro rfl
    exact hname hc
  have hcut : cutPair (name ++ '=' :: value) = (name, value) := by
    rw [cutPair, takeWhile_append_cons hequals (by decide),
      dropWhile_append_cons hequals (by decide)]
    rfl
  have hblank : value = [] ↔ pair.2 = "" := by rw [hv.eq_nil_iff, String.toList_eq_nil_iff]
  unfold pairField?
  rw [hcut]
  simp only [decodeComponent_of_spells hn fun c hc => hc.1.ne,
    decodeComponent_of_spells hv fun c hc => hc.ne, String.ofList_toList]
  by_cases hb : pair.2 = ""
  · rw [hblank.2 hb, hb]
    cases keepBlank <;> simp [isKept, pairField, hb]
  · have hne : value ≠ [] := fun h => hb (hblank.1 h)
    simp [isKept, pairField, hb, hne]

/-! ### Forms -/

/-- Every field of a URL-encoded text has a value. -/
theorem exists_value_of_mem_fields {keepBlank : Bool} {text : List Char} {x : Field}
    (h : x ∈ fields keepBlank text) : ∃ value, x.value = some value := by
  obtain ⟨pair, -, hx⟩ := List.mem_filterMap.1 h
  unfold pairField? cutPair at hx
  dsimp only at hx
  split at hx
  · simp at hx
  · exact ⟨_, congrArg Field.value (Option.some.inj hx).symm⟩

theorem fields_of_not_mem {text : List Char} (h : '&' ∉ text) (keepBlank : Bool) :
    fields keepBlank text = (pairField? keepBlank text).toList := by
  rw [fields, List.splitOn_eq_singleton h]
  cases h : pairField? keepBlank text <;> simp [h]

theorem fields_of_spellsPair {pair : String × String} (h : SpellsPair pair spelled)
    (keepBlank : Bool) :
    fields keepBlank spelled = ([pair].filter (isKept keepBlank)).map pairField := by
  rw [fields_of_not_mem h.separator_not_mem, pairField?_of_spellsPair h]
  by_cases hk : isKept keepBlank pair = true
  · rw [if_pos hk, List.filter_cons_of_pos hk]
    rfl
  · rw [if_neg hk, List.filter_cons_of_neg hk]
    rfl

/-- **The fields of a spelling** are its pairs, in order; without blank values, those whose value is
not empty. -/
theorem fields_of_spellsForm {pairs : List (String × String)} (h : SpellsForm pairs spelled)
    (keepBlank : Bool) :
    fields keepBlank spelled = (pairs.filter (isKept keepBlank)).map pairField := by
  induction h with
  | nil => exact fields_nil keepBlank
  | @separator pairs spelled _ ih =>
    have hs := fields_append keepBlank [] spelled
    rw [List.nil_append, fields_nil, List.nil_append] at hs
    rw [hs, ih]
  | last h => exact fields_of_spellsPair h keepBlank
  | cons hf _ ih =>
    rw [fields_append, fields_of_spellsPair hf, ih, ← List.map_append, ← List.filter_append]
    rfl

/-- The form of a body in a URL-encoded content type is that of the text as a query string. -/
theorem ofBody_ofString {contentType : String} (h : ContentType.essence contentType = "" ∨
      ContentType.essence contentType = "application/x-www-form-urlencoded")
    (keepBlank : Bool) (text : String) :
    Form.ofBody contentType keepBlank (Bytes.ofString text) =
      .ok (Form.ofQuery keepBlank text) := by
  rw [Form.ofBody,
    Form.fieldsOfBody_of_urlEncoded (ContentType.encoding_eq_urlEncoded_iff.2 h) keepBlank,
    Utf8.ofString_eq_encode, Utf8.decodeLossy_of_decode? (Utf8.decode?_encode text.toList)]
  rfl

/-- **A form is read back from each of its spellings**, from a query string as well as from a body:
with blank values as the first occurrences among all pairs, without them as the first occurrences
among those whose value is not empty. -/
theorem form_of_spelling {pairs : List (String × String)} {text : String}
    (h : SpellsForm pairs text.toList) :
    (Form.ofQuery true text).fields = firstOccurrences (pairs.map pairField) ∧
      (Form.ofQuery false text).fields =
        firstOccurrences ((pairs.filter fun pair => pair.2 ≠ "").map pairField) ∧
      ∀ contentType, ContentType.essence contentType = "" ∨
          ContentType.essence contentType = "application/x-www-form-urlencoded" →
        ∀ keepBlank, Form.ofBody contentType keepBlank (Bytes.ofString text) =
          .ok (Form.ofQuery keepBlank text) := by
  have hquery : ∀ keepBlank, (Form.ofQuery keepBlank text).fields =
      firstOccurrences ((pairs.filter (isKept keepBlank)).map pairField) := by
    intro keepBlank
    rw [Form.ofQuery, form, Form.fields_ofList, fields_of_spellsForm h]
  have hall : pairs.filter (isKept true) = pairs := List.filter_eq_self.2 fun _ _ => rfl
  exact ⟨(hquery true).trans (by rw [hall]), hquery false,
    fun contentType hc keepBlank => ofBody_ofString hc keepBlank text⟩

/-- Separators around and between the pairs, escapes in both cases of digits next to characters that
stand for themselves, two spellings of one name, an empty name, and an empty value. -/
theorem form_of_mixed_spelling :
    let pairs := [("ü ", "+é"), ("", "=&"), ("b", ""), ("ü ", "%")]
    let text := "&%c3%BC+=%2bé&&==%26&b=&%C3%bc%20=%25&"
    SpellsForm pairs text.toList ∧
      (Form.ofQuery true text).fields = firstOccurrences (pairs.map pairField) ∧
      (Form.ofQuery false text).fields =
        firstOccurrences ((pairs.filter fun pair => pair.2 ≠ "").map pairField) ∧
      ∀ contentType, ContentType.essence contentType = "" ∨
          ContentType.essence contentType = "application/x-www-form-urlencoded" →
        ∀ keepBlank, Form.ofBody contentType keepBlank (Bytes.ofString text) =
          .ok (Form.ofQuery keepBlank text) := by
  intro pairs text
  have first : SpellsPair ("ü ", "+é") "%c3%BC+=%2bé".toList :=
    ⟨"%c3%BC+".toList, "%2bé".toList,
      @Spells.escaped _ 'ü' _ "%c3%BC".toList _
        (.cons 0xC3 false false (.cons 0xBC true true .nil)) (.plus .nil),
      @Spells.escaped _ '+' _ "%2b".toList _ (.cons 0x2B false false .nil)
        (@Spells.literal _ 'é' _ _ (by decide) .nil), rfl⟩
  have second : SpellsPair ("", "=&") "==%26".toList :=
    ⟨[], "=%26".toList, .nil,
      @Spells.literal _ '=' _ _ (by decide)
        (@Spells.escaped _ '&' _ "%26".toList _ (.cons 0x26 false false .nil) .nil), rfl⟩
  have third : SpellsPair ("b", "") "b=".toList :=
    ⟨"b".toList, [], @Spells.literal _ 'b' _ _ (by decide) .nil, .nil, rfl⟩
  have fourth : SpellsPair ("ü ", "%") "%C3%bc%20=%25".toList :=
    ⟨"%C3%bc%20".toList, "%25".toList,
      @Spells.escaped _ 'ü' _ "%C3%bc".toList _
        (.cons 0xC3 true true (.cons 0xBC false false .nil))
        (@Spells.escaped _ ' ' _ "%20".toList _ (.cons 0x20 false false .nil) .nil),
      @Spells.escaped _ '%' _ "%25".toList _ (.cons 0x25 false false .nil) .nil, rfl⟩
  have htext : text.toList = '&' :: ("%c3%BC+=%2bé".toList ++ '&' :: '&' :: ("==%26".toList ++
      '&' :: ("b=".toList ++ '&' :: ("%C3%bc%20=%25".toList ++ ['&'])))) := by decide +kernel
  have h : SpellsForm pairs text.toList := by
    rw [htext]
    exact .separator (.cons first (.separator (.cons second (.cons third (.cons fourth .nil)))))
  exact ⟨h, form_of_spelling h⟩

end FormReply.UrlEncoded
