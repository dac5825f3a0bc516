import FormReply.Multipart.Writer
import FormReply.Proofs.Bytes.Search
import FormReply.Proofs.Lists
import FormReply.Proofs.Text.Utf8

/-!
# Dispositions there and back

An attribute of a disposition is found by a search for its key, so a key must not occur in the
values before it.  A value is put between quotes with a backslash before every quote in it, and read
back unless its own last byte is a backslash, which would spoil the closing quote.

* `encode_escapeQuotes`: quotes may be escaped before or after the text is encoded;
* `quotedValue?_escapeBytes`: **a quoted value** is read back;
* `bytes?_of_firstBehind`, `bytes?_of_not_infix`: where an attribute is found;
* `IsPlain`, `IsPlainName`: texts that may be values;
* `text?_name`, `text?_filename`: **the attributes** of a written disposition.
-/

namespace FormReply.Multipart

open FormReply.Utf8 (encode)

/-! ### Quotes -/

/-- The bytes with a backslash before every quote. -/
def escapeBytes (s : Bytes) : Bytes := s.flatMap fun b => if b = 0x22 then [0x5C, 0x22] else [b]

theorem escapeBytes_cons (b : UInt8) (s : Bytes) :
    escapeBytes (b :: s) = (if b = 0x22 then [0x5C, 0x22] else [b]) ++ escapeBytes s :=
  List.flatMap_cons

theorem escapeBytes_append (s t : Bytes) : escapeBytes (s ++ t) = escapeBytes s ++ escapeBytes t :=
  List.flatMap_append

theorem escapeBytes_of_not_mem {s : Bytes} (h : 0x22 ∉ s) : escapeBytes s = s := by
  induction s with
  | nil => rfl
  | cons b s ih =>
    obtain ⟨hb, hs⟩ : 0x22 ≠ b ∧ 0x22 ∉ s := by simpa using h
    rw [escapeBytes_cons, if_neg hb.symm, ih hs]
    rfl

/-- **Quotes may be escaped** before or after the text is encoded. -/
theorem encode_escapeQuotes (text : List Char) :
    encode (escapeQuotes text) = escapeBytes (encode text) := by
  induction text with
  | nil => rfl
  | cons c text ih =>
    rw [escapeQuotes, List.flatMap_cons, ← escapeQuotes, Utf8.encode_append, ih, Utf8.encode_cons,
      escapeBytes_append]
    congr 1
    by_cases hc : c = '"'
    · rw [hc]
      decide
    · have hq : 0x22 ∉ String.utf8EncodeChar c := by
        intro h
        have hi : 0x22 ∈ encode [c] := by rwa [Utf8.encode_cons, Utf8.encode_nil, List.append_nil]
        have hm := Utf8.mem_of_mem_encode (by decide) hi
        exact hc (List.mem_singleton.1 hm).symm
      rw [if_neg hc, escapeBytes_of_not_mem hq, Utf8.encode_cons, Utf8.encode_nil, List.append_nil]

namespace Attribute

/-- The closing quote is found behind the escaped bytes that are still to come. -/
theorem quotedValue?.go_escapeBytes (out : Bytes) {s : Bytes} (hs : s.getLast? ≠ some 0x5C)
    (rest : Bytes) :
    quotedValue?.go out (escapeBytes s ++ 0x22 :: rest) = some (out.reverse ++ s) := by
  induction s generalizing out with
  | nil => simp [escapeBytes, quotedValue?.go]
  | cons b s ih =>
    have hlast : s.getLast? ≠ some 0x5C := by
      intro h
      apply hs
      rw [List.getLast?_cons, h]
      rfl
    rw [escapeBytes_cons]
    by_cases hb : b = 0x22
    · rw [if_pos hb, hb]
      show quotedValue?.go out (0x5C :: 0x22 :: (escapeBytes s ++ 0x22 :: rest)) = _
      rw [quotedValue?.go, ih _ hlast]
      simp
    · rw [if_neg hb]
      show quotedValue?.go out (b :: (escapeBytes s ++ 0x22 :: rest)) = _
      rw [quotedValue?.go, ih _ hlast]
      · simp
      · exact hb
      · -- A quote in the value follows its own backslash, so only the last byte could spoil one.
        intro t hb' ht
        cases s with
        | nil => exact hs (by rw [hb']; rfl)
        | cons d s =>
          rw [escapeBytes_cons] at ht
          split at ht
          · simp at ht
          · next hd => exact hd (by simpa using (List.cons.inj ht).1)

/-- **A quoted value** is read back. -/
theorem quotedValue?_escapeBytes {s : Bytes} (hs : s.getLast? ≠ some 0x5C) (rest : Bytes) :
    quotedValue? (escapeBytes s ++ 0x22 :: rest) = some s :=
  quotedValue?.go_escapeBytes [] hs rest

/-! ### Keys -/

/-- An attribute is found where its key comes first, if the key counts there. -/
theorem bytes?_of_firstBehind {a : Attribute} {before : Bytes}
    (h : Bytes.FirstBehind a.key before) (hc : countsAfter before = true) (after : Bytes) :
    a.bytes? (before ++ a.key ++ after) = value? after := by
  have hfound := Bytes.breakOn?_of_firstBehind a.key_ne_nil h after
  rw [bytes?]
  split
  · next hnone =>
    rw [hfound] at hnone
    exact absurd hnone (by simp)
  · next before' after' hsome =>
    obtain ⟨rfl, rfl⟩ : before = before' ∧ after = after' := by
      rw [hfound] at hsome
      simpa using hsome
    rw [if_pos hc]

theorem bytes?_of_not_infix {a : Attribute} {disposition : Bytes}
    (h : ¬ a.key <:+: disposition) : a.bytes? disposition = none := by
  have hnone := Bytes.breakOn?_eq_none_iff.2 h
  rw [bytes?]
  split
  · rfl
  · next hsome =>
    rw [hnone] at hsome
    exact absurd hsome (by simp)

theorem value?_escapeBytes {s : Bytes} (hs : s.getLast? ≠ some 0x5C) (rest : Bytes) :
    value? (0x3D :: 0x22 :: (escapeBytes s ++ 0x22 :: rest)) = some s := by
  have h := quotedValue?_escapeBytes hs rest
  simpa [value?, isBlankByte] using h

end Attribute

/-! ### Plain texts -/

/-- The text has no control characters and does not end with a backslash. -/
structure IsPlain (s : String) : Prop where
  control : ∀ c ∈ s.toList, 0x20 ≤ c.toNat ∧ c.toNat ≠ 0x7F
  last : s.toList.getLast? ≠ some '\\'

/-- The text is plain and may be searched for the key of a file. -/
structure IsPlainName (s : String) : Prop extends IsPlain s where
  key : ¬ "filename".toList <:+: s.toList

instance (s : String) : Decidable (IsPlain s) :=
  decidable_of_iff ((s.toList.all fun c => decide (0x20 ≤ c.toNat ∧ c.toNat ≠ 0x7F)) = true ∧
    s.toList.getLast? ≠ some '\\')
    ⟨fun h => ⟨all_decide_iff.1 h.1, h.2⟩, fun h => ⟨all_decide_iff.2 h.1, h.2⟩⟩

instance (s : String) : Decidable (IsPlainName s) :=
  decidable_of_iff (IsPlain s ∧ ¬ "filename".toList <:+: s.toList)
    ⟨fun h => ⟨h.1, h.2⟩, fun h => ⟨h.1, h.2⟩⟩

theorem IsPlain.getLast?_encode {s : String} (h : IsPlain s) :
    (encode s.toList).getLast? ≠ some 0x5C := by
  intro hl
  obtain ⟨t, ht⟩ := List.getLast?_eq_some_iff.1 hl
  exact h.last (Utf8.getLast?_of_encode_eq_concat (by decide) ht)

/-- A pattern without quotes and backslashes that comes at the start of escaped bytes comes at the
start of the bytes. -/
theorem prefix_of_prefix_escapeBytes {pattern s : Bytes} (hb : 0x5C ∉ pattern)
    (h : pattern <+: escapeBytes s) : pattern <+: s := by
  induction s generalizing pattern with
  | nil => exact h
  | cons b s ih =>
    cases pattern with
    | nil => exact List.nil_prefix
    | cons c pattern =>
      obtain ⟨hc, hb⟩ : 0x5C ≠ c ∧ 0x5C ∉ pattern := by simpa using hb
      rw [escapeBytes_cons] at h
      split at h
      · exact absurd (List.cons_prefix_cons.1 h).1.symm hc
      · obtain ⟨rfl, htail⟩ := List.cons_prefix_cons.1 h
        exact List.cons_prefix_cons.2 ⟨rfl, ih hb htail⟩

/-- **A pattern without quotes and backslashes** occurs in the bytes if it occurs in escaped bytes.
-/
theorem infix_of_infix_escapeBytes {pattern s : Bytes} (hq : 0x22 ∉ pattern) (hb : 0x5C ∉ pattern)
    (h : pattern <:+: escapeBytes s) : pattern <:+: s := by
  induction s with
  | nil => exact h
  | cons b s ih =>
    rw [escapeBytes_cons] at h
    split at h
    · have h' : pattern <:+: [] ++ 0x5C :: ([] ++ 0x22 :: escapeBytes s) := h
      rw [Bytes.infix_append_cons_iff hb, Bytes.infix_append_cons_iff hq] at h'
      rcases h' with h' | h' | h'
      · exact h'.trans List.nil_infix
      · exact h'.trans List.nil_infix
      · exact List.infix_cons (ih h')
    · rw [List.singleton_append, List.infix_cons_iff] at h
      rcases h with h | h
      · have hpre : pattern <+: escapeBytes (b :: s) := by
          rw [escapeBytes_cons, if_neg ‹_›]
          exact h
        exact (prefix_of_prefix_escapeBytes hb hpre).isInfix
      · exact List.infix_cons (ih h)

/-- The key of a file does not occur in an escaped name. -/
theorem IsPlainName.not_infix_encode {s : String} (h : IsPlainName s) :
    ¬ Attribute.filename.key <:+: escapeBytes (encode s.toList) := by
  intro hi
  have hk := infix_of_infix_escapeBytes (by decide) (by decide) hi
  have ht := Utf8.infix_of_encode_infix (all_decide_iff.1 (by decide))
    (Attribute.key_ne_nil .filename) hk
  exact h.key ht

/-! ### Written dispositions -/

theorem writeAttribute_some (a : Attribute) (s : String) : writeAttribute a (some s) =
    Bytes.ofString "; " ++ a.key ++
      (0x3D :: 0x22 :: (escapeBytes (encode s.toList) ++ [0x22])) := by
  have hq : Bytes.ofString "=\"" = [0x3D, 0x22] := by decide
  rw [writeAttribute, encode_escapeQuotes, hq]
  simp only [List.append_assoc, List.cons_append, List.nil_append]

/-- The disposition of a part. -/
def Outgoing.disposition (p : Outgoing) : Bytes :=
  Bytes.ofString "form-data" ++ writeAttribute .name p.name ++ writeAttribute .filename p.filename

/-- If only a part with a name carries a file, a part without one has a bare disposition. -/
theorem Outgoing.disposition_of_unnamed {p : Outgoing} (hf : p.filename.isSome → p.name.isSome)
    (hname : p.name = none) : p.filename = none ∧ p.disposition = Bytes.ofString "form-data" := by
  have hfile : p.filename = none := by
    rw [hname] at hf
    simpa using hf
  rw [disposition, hname, hfile]
  exact ⟨rfl, rfl⟩

theorem Outgoing.disposition_of_name {p : Outgoing} {s : String} (hname : p.name = some s) :
    p.disposition = Bytes.ofString "form-data; name=" ++ 0x22 :: (escapeBytes (encode s.toList) ++
      0x22 :: writeAttribute .filename p.filename) := by
  rw [disposition, hname, writeAttribute_some]
  simp only [List.append_assoc, List.cons_append, List.nil_append]
  rfl

theorem Attribute.text?_of_bytes? {a : Attribute} {disposition : Bytes} {s : String}
    (h : a.bytes? disposition = some (encode s.toList)) : a.text? disposition = some s := by
  rw [text?, h, Option.bind_some, Utf8.decode?_encode, Option.map_some, String.ofList_toList]

theorem Attribute.text?_of_not_infix {a : Attribute} {disposition : Bytes}
    (h : ¬ a.key <:+: disposition) : a.text? disposition = none := by
  rw [text?, bytes?_of_not_infix h]
  rfl

/-- The key of a file does not reach across the quotes around a name. -/
theorem not_infix_name {s t : Bytes} (hs : ¬ Attribute.filename.key <:+: s)
    (ht : ¬ Attribute.filename.key <:+: t) :
    ¬ Attribute.filename.key <:+:
      Bytes.ofString "form-data; name=" ++ 0x22 :: (s ++ 0x22 :: t) := by
  rw [Bytes.infix_append_cons_iff (by decide), Bytes.infix_append_cons_iff (by decide)]
  rintro (h | h | h)
  · exact absurd h (by decide)
  · exact hs h
  · exact ht h

/-- What stands before the key of a file, behind a name that is escaped to `s`. -/
def beforeFilename (s : Bytes) : Bytes :=
  Bytes.ofString "form-data; name=" ++ 0x22 :: (s ++ 0x22 :: Bytes.ofString "; ")

theorem firstBehind_filename {s : Bytes} (hs : ¬ Attribute.filename.key <:+: s) :
    Bytes.FirstBehind Attribute.filename.key (beforeFilename s) := by
  have hdrop : (beforeFilename s ++ Attribute.filename.key).dropLast =
      Bytes.ofString "form-data; name=" ++ 0x22 :: (s ++ 0x22 :: Bytes.ofString "; filenam") := by
    rw [beforeFilename, List.dropLast_append_of_ne_nil (Attribute.key_ne_nil _)]
    simp only [List.append_assoc, List.cons_append]
    rfl
  rw [Bytes.FirstBehind, hdrop]
  exact not_infix_name hs (by decide)

theorem countsAfter_filename (s : Bytes) :
    Attribute.countsAfter (beforeFilename s) = true := by
  have hlast : beforeFilename s =
      Bytes.ofString "form-data; name=" ++ 0x22 :: (s ++ [0x22, 0x3B]) ++ [0x20] := by
    rw [beforeFilename]
    simp only [List.append_assoc, List.cons_append]
    rfl
  rw [Attribute.countsAfter, hlast, List.getLast?_concat]
  rfl

/-- **The name** of a written disposition. -/
theorem text?_name {p : Outgoing} (hf : p.filename.isSome → p.name.isSome)
    (hn : ∀ s ∈ p.name, IsPlain s) : Attribute.name.text? p.disposition = p.name := by
  cases hname : p.name with
  | none =>
    rw [(Outgoing.disposition_of_unnamed hf hname).2]
    exact Attribute.text?_of_not_infix (by decide)
  | some s =>
    have hs := (hn s hname).getLast?_encode
    have hd : p.disposition = Bytes.ofString "form-data; " ++ Attribute.name.key ++
        (0x3D :: 0x22 :: (escapeBytes (encode s.toList) ++
          0x22 :: writeAttribute .filename p.filename)) := Outgoing.disposition_of_name hname
    refine Attribute.text?_of_bytes? ?_
    rw [hd, Attribute.bytes?_of_firstBehind (by decide) (by decide)]
    exact Attribute.value?_escapeBytes hs _

/-- **The name of a file** in a written disposition. -/
theorem text?_filename {p : Outgoing} (hf : p.filename.isSome → p.name.isSome)
    (hn : ∀ s ∈ p.name, IsPlainName s) (hp : ∀ s ∈ p.filename, IsPlain s) :
    Attribute.filename.text? p.disposition = p.filename := by
  cases hname : p.name with
  | none =>
    obtain ⟨hfile, hd⟩ := Outgoing.disposition_of_unnamed hf hname
    rw [hfile, hd]
    exact Attribute.text?_of_not_infix (by decide)
  | some s =>
    have hs := (hn s hname).not_infix_encode
    have hd := Outgoing.disposition_of_name hname
    cases hfile : p.filename with
    | none =>
      rw [hd, hfile]
      exact Attribute.text?_of_not_infix (not_infix_name hs (by decide))
    | some t =>
      have ht := (hp t hfile).getLast?_encode
      have hd' : p.disposition = beforeFilename (escapeBytes (encode s.toList)) ++
          Attribute.filename.key ++
            (0x3D :: 0x22 :: (escapeBytes (encode t.toList) ++ 0x22 :: [])) := by
        rw [hd, hfile, writeAttribute_some, beforeFilename]
        simp only [List.append_assoc, List.cons_append]
      refine Attribute.text?_of_bytes? ?_
      rw [hd', Attribute.bytes?_of_firstBehind (firstBehind_filename hs) (countsAfter_filename _)]
      exact Attribute.value?_escapeBytes ht _

end FormReply.Multipart
