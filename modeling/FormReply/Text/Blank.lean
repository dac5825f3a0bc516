/-!
# Blanks

The characters with the Unicode property `White_Space`, and trimming.

* `trim_append_append`: blanks around a text do not matter;
* `trim_pad`: blanks around a text that neither begins nor ends with one are removed;
* `exists_pad_trim`: nothing but blanks is removed;
* `trim_takeWhile_trim`: a text may be trimmed before it is cut at something else than a blank.
-/

namespace FormReply.Text

/-- The character has the property `White_Space`. -/
def isBlank (c : Char) : Bool :=
  let n := c.toNat
  (9 ≤ n && n ≤ 13) || n == 0x20 || n == 0x85 || n == 0xA0 || n == 0x1680 ||
    (0x2000 ≤ n && n ≤ 0x200A) || n == 0x2028 || n == 0x2029 || n == 0x202F || n == 0x205F ||
    n == 0x3000

/-- The text without the blanks it begins and ends with. -/
def trim (text : List Char) : List Char :=
  ((text.dropWhile isBlank).reverse.dropWhile isBlank).reverse

/-- The string without the blanks it begins and ends with. -/
def trimString (s : String) : String := String.ofList (trim s.toList)

/-- The text neither begins nor ends with a blank. -/
def IsTrimmed (text : List Char) : Prop :=
  (∀ c ∈ text.head?, isBlank c = false) ∧ ∀ c ∈ text.getLast?, isBlank c = false

instance (text : List Char) : Decidable (IsTrimmed text) :=
  @instDecidableAnd _ _ (Option.decidableForallMem _) (Option.decidableForallMem _)

theorem dropWhile_of_head? {text : List Char} (h : ∀ c ∈ text.head?, isBlank c = false) :
    text.dropWhile isBlank = text := by
  cases text with
  | nil => rfl
  | cons c text => exact List.dropWhile_cons_of_neg (by simp [h c rfl])

@[simp] theorem trim_nil : trim [] = [] := rfl

theorem dropWhile_eq_nil_of_all {text : List Char} (h : ∀ c ∈ text, isBlank c) :
    text.dropWhile isBlank = [] := by
  have hrest : (text ++ []).dropWhile isBlank = [].dropWhile isBlank :=
    List.dropWhile_append_of_pos h
  rwa [List.append_nil] at hrest

theorem trim_of_isTrimmed {text : List Char} (h : IsTrimmed text) : trim text = text := by
  have hl : text.reverse.dropWhile isBlank = text.reverse :=
    dropWhile_of_head? (by simpa using h.2)
  rw [trim, dropWhile_of_head? h.1, hl, List.reverse_reverse]

theorem trim_append_of_all {right : List Char} (hr : ∀ c ∈ right, isBlank c) (text : List Char) :
    trim (text ++ right) = trim text := by
  have hreverse : ∀ c ∈ right.reverse, isBlank c := by simpa using hr
  unfold trim
  rw [List.dropWhile_append]
  split
  · next h => rw [dropWhile_eq_nil_of_all hr, List.isEmpty_iff.1 h]
  · rw [List.reverse_append, List.dropWhile_append_of_pos hreverse]

/-- **Blanks around a text** do not matter. -/
theorem trim_append_append {left right : List Char} (hl : ∀ c ∈ left, isBlank c)
    (hr : ∀ c ∈ right, isBlank c) (text : List Char) :
    trim (left ++ text ++ right) = trim text := by
  rw [trim_append_of_all hr, trim, List.dropWhile_append_of_pos hl, trim]

/-- **Blanks around a trimmed text** are removed. -/
theorem trim_pad {left text right : List Char} (hl : ∀ c ∈ left, isBlank c)
    (hr : ∀ c ∈ right, isBlank c) (h : IsTrimmed text) : trim (left ++ text ++ right) = text := by
  rw [trim_append_append hl hr, trim_of_isTrimmed h]

/-- Trimming removes nothing but blanks. -/
theorem exists_pad_trim (text : List Char) :
    ∃ left right, (∀ c ∈ left, isBlank c) ∧ (∀ c ∈ right, isBlank c) ∧
      text = left ++ trim text ++ right := by
  have hall : ∀ {l : List Char}, ∀ c ∈ l.takeWhile isBlank, isBlank c := fun c hc =>
    (List.all_eq_true.1 List.all_takeWhile) c hc
  refine ⟨text.takeWhile isBlank, ((text.dropWhile isBlank).reverse.takeWhile isBlank).reverse,
    hall, fun c hc => hall c (List.mem_reverse.1 hc), ?_⟩
  rw [trim, List.append_assoc, ← List.reverse_append, List.takeWhile_append_dropWhile,
    List.reverse_reverse, List.takeWhile_append_dropWhile]

/-- A text is trimmed if its ends are. -/
theorem IsTrimmed.append {a b : List Char} (ha : IsTrimmed a) (hb : IsTrimmed b) (hna : a ≠ [])
    (hnb : b ≠ []) (middle : List Char) : IsTrimmed (a ++ middle ++ b) := by
  constructor
  · rw [List.append_assoc, List.head?_append, Option.or_of_isSome (by simpa using hna)]
    exact ha.1
  · rw [List.getLast?_append, Option.or_of_isSome (by simpa using hnb)]
    exact hb.2

theorem isTrimmed_singleton {c : Char} (h : isBlank c = false) : IsTrimmed [c] := by
  simp [IsTrimmed, h]

theorem trim_of_all {text : List Char} (h : ∀ c ∈ text, isBlank c) : trim text = [] := by
  rw [trim, dropWhile_eq_nil_of_all h]
  rfl

/-- A text may be trimmed before it is cut at something else than a blank. -/
theorem trim_takeWhile_trim {p : Char → Bool} (hp : ∀ c, isBlank c → p c) (text : List Char) :
    trim ((trim text).takeWhile p) = trim (text.takeWhile p) := by
  obtain ⟨left, right, hl, hr, htext⟩ := exists_pad_trim text
  generalize trim text = inner at htext ⊢
  subst htext
  rw [List.append_assoc, List.takeWhile_append_of_pos fun c hc => hp c (hl c hc),
    List.takeWhile_append]
  split
  · next hlength =>
    have hr' : ∀ c ∈ right.takeWhile p, isBlank c := fun c hc =>
      hr c ((List.takeWhile_sublist p).subset hc)
    rw [(List.takeWhile_sublist p).eq_of_length hlength, ← List.append_assoc,
      trim_append_append hl hr']
  · have hnil : ∀ c ∈ [], isBlank c := by simp
    have hcut := trim_append_append hl hnil (inner.takeWhile p)
    rw [List.append_nil] at hcut
    exact hcut.symm

end FormReply.Text
