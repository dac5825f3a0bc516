import FormReply.Proofs.Lists
import FormReply.Settings.Ini.Spelling

/-!
# Reading settings lines

However a line of settings is spelled, it is read as the line that it spells.  So a text is read as
the lines that it spells, up to a blank line behind the last line end.

* `readLine_append_comment`: a comment does not matter;
* `readLine_of_spellsLine`: **a line** is read as what it spells;
* `entries_of_spellsText`: **the assignments of a text** are those of the lines that it spells.
-/

namespace FormReply.Ini

/-! ### Characters -/

theorem isSpecial_eq_false_iff {c : Char} : isSpecial c = false ↔
    isComment c = false ∧ isDelimiter c = false ∧ c ≠ '[' ∧ c ≠ ']' ∧ c ≠ '\n' ∧ c ≠ '\x0d' := by
  simp only [isSpecial, Bool.or_eq_false_iff, beq_eq_false_iff_ne, and_assoc]

theorem isComment_of_isBlank {c : Char} (h : Text.isBlank c) : isComment c = false := by
  cases hc : isComment c with
  | false => rfl
  | true =>
    simp only [isComment, Bool.or_eq_true, beq_iff_eq] at hc
    rcases hc with rfl | rfl <;> exact absurd h (by decide)

theorem isDelimiter_of_isBlank {c : Char} (h : Text.isBlank c) : isDelimiter c = false := by
  cases hc : isDelimiter c with
  | false => rfl
  | true =>
    simp only [isDelimiter, Bool.or_eq_true, beq_iff_eq] at hc
    rcases hc with rfl | rfl <;> exact absurd h (by decide)

theorem eq_of_isDelimiter {c : Char} (h : isDelimiter c) : c = '=' ∨ c = ':' := by
  simpa only [isDelimiter, Bool.or_eq_true, beq_iff_eq] using h

/-! ### Comments -/

/-- What a line says: its text without a comment and without the blanks around it. -/
def written (text : List Char) : List Char := Text.trim (text.takeWhile fun c => !isComment c)

theorem written_of_forall {text : List Char} (h : ∀ c ∈ text, isComment c = false) :
    written text = Text.trim text := by
  rw [written, List.takeWhile_eq_self_iff.2 fun c hc => by rw [h c hc]; rfl]

theorem written_append_comment (text note : List Char) {mark : Char} (hm : isComment mark) :
    written (text ++ mark :: note) = written text := by
  rw [written, written, List.takeWhile_append]
  split
  · next hlength =>
    rw [(List.takeWhile_sublist _).eq_of_length hlength,
      List.takeWhile_cons_of_neg (by simp [hm]), List.append_nil]
  · rfl

section

variable {text rest : List Char}

/-- What a line says is what is read of it. -/
theorem trim_takeWhile_trim_eq (text : List Char) :
    Text.trim ((Text.trim text).takeWhile fun c => !isComment c) = written text :=
  Text.trim_takeWhile_trim (fun c hc => by rw [isComment_of_isBlank hc]; rfl) text

theorem readLine_of_written_eq_nil (h : written text = []) (number : Nat) :
    readLine number text = .ok .blank := by
  rw [readLine, trim_takeWhile_trim_eq, h]

theorem readLine_of_written_eq_bracket (h : written text = '[' :: rest) (number : Nat) :
    readLine number text = readHeading number rest := by
  rw [readLine, trim_takeWhile_trim_eq, h]
  rfl

theorem readLine_of_written_eq (h : written text = rest) (hne : rest ≠ [])
    (hb : rest.head? ≠ some '[') (number : Nat) :
    readLine number text = readAssignment number rest := by
  rw [readLine, trim_takeWhile_trim_eq, h]
  split
  · exact absurd rfl hne
  · exact absurd rfl hb
  · rfl

end

/-- A comment behind a line does not matter. -/
theorem readLine_append_comment (number : Nat) (text note : List Char) {mark : Char}
    (hm : isComment mark) : readLine number (text ++ mark :: note) = readLine number text := by
  rw [readLine, readLine, trim_takeWhile_trim_eq, trim_takeWhile_trim_eq,
    written_append_comment text note hm]

/-! ### Lines -/

theorem isPadding_nil : IsPadding [] := by simp [IsPadding]

theorem IsPadding.isBlank {pad : List Char} (h : IsPadding pad) : ∀ c ∈ pad, Text.isBlank c :=
  fun c hc => (h c hc).1

theorem IsPadding.isComment {pad : List Char} (h : IsPadding pad) :
    ∀ c ∈ pad, Ini.isComment c = false := fun c hc => isComment_of_isBlank (h c hc).1

theorem IsToken.isComment {text : List Char} (h : IsToken text) :
    ∀ c ∈ text, Ini.isComment c = false := fun c hc => (isSpecial_eq_false_iff.1 (h.2 c hc)).1

theorem IsToken.isDelimiter {text : List Char} (h : IsToken text) :
    ∀ c ∈ text, Ini.isDelimiter c = false := fun c hc => (isSpecial_eq_false_iff.1 (h.2 c hc)).2.1

section

variable {p₁ p₂ p₃ p₄ : List Char}

theorem readLine_of_key {text key rest : List Char} (hk : IsToken key) (hne : key ≠ [])
    (h : written text = key ++ rest) (number : Nat) :
    readLine number text = readAssignment number (key ++ rest) := by
  obtain ⟨c, key, rfl⟩ := List.exists_cons_of_ne_nil hne
  have hc := isSpecial_eq_false_iff.1 (hk.2 c List.mem_cons_self)
  refine readLine_of_written_eq h (List.cons_ne_nil _ _) ?_ number
  rw [List.cons_append, List.head?_cons, Ne, Option.some_inj]
  exact hc.2.2.1

theorem token_pad {text : List Char} (hl : IsPadding p₁) (h : IsToken text) (hr : IsPadding p₂) :
    token (p₁ ++ text ++ p₂) = String.ofList text := by
  rw [token, Text.trim_pad hl.isBlank hr.isBlank h.1]

theorem readHeading_pad {name : List Char} (h₂ : IsPadding p₂) (hn : IsToken name)
    (h₃ : IsPadding p₃) (number : Nat) :
    readHeading number (p₂ ++ name ++ p₃ ++ [']']) = .ok (.heading (String.ofList name)) := by
  have hreverse : (p₂ ++ name ++ p₃ ++ [']']).reverse = ']' :: (p₂ ++ name ++ p₃).reverse := by
    rw [List.reverse_append]
    rfl
  rw [readHeading, hreverse, List.dropWhile_cons_of_neg (by simp)]
  simp only [List.reverse_reverse, token_pad h₂ hn h₃]

theorem readAssignment_pad {key value : List Char} {delimiter : Char} (hk : IsToken key)
    (hne : key ≠ []) (h₂ : IsPadding p₂) (hd : isDelimiter delimiter) (h₃ : IsPadding p₃)
    (hv : IsToken value) (number : Nat) :
    readAssignment number (key ++ p₂ ++ delimiter :: (p₃ ++ value)) =
      .ok (.assignment (String.ofList key) (some (String.ofList value))) := by
  have hfront : ∀ c ∈ key ++ p₂, (!isDelimiter c) = true := by
    intro c hc
    rcases List.mem_append.1 hc with hc | hc
    · rw [hk.isDelimiter c hc]; rfl
    · rw [isDelimiter_of_isBlank (h₂.isBlank c hc)]; rfl
  have hstop : (!isDelimiter delimiter) = false := by rw [hd]; rfl
  have hkey := token_pad isPadding_nil hk h₂
  have hvalue := token_pad h₃ hv isPadding_nil
  rw [List.nil_append] at hkey
  rw [List.append_nil] at hvalue
  unfold readAssignment
  simp only [takeWhile_append_cons hfront hstop, dropWhile_append_cons hfront hstop, hkey, hvalue]
  rw [if_neg]
  simpa [String.isEmpty_iff] using hne

theorem readAssignment_bare {key : List Char} (hk : IsToken key) (number : Nat) :
    readAssignment number key = .ok (.assignment (String.ofList key) none) := by
  have hkeep : ∀ c ∈ key, (!isDelimiter c) = true := fun c hc => by rw [hk.isDelimiter c hc]; rfl
  have htoken : token key = String.ofList key := by rw [token, Text.trim_of_isTrimmed hk.1]
  unfold readAssignment
  simp only [List.takeWhile_eq_self_iff.2 hkeep, List.dropWhile_eq_nil_iff.2 hkeep, htoken]

/-- A value in an assignment, without the blanks behind it. -/
theorem written_assignment {key value : List Char} {delimiter : Char} (h₁ : IsPadding p₁)
    (hk : IsToken key) (hne : key ≠ []) (h₂ : IsPadding p₂) (hd : isDelimiter delimiter)
    (h₃ : IsPadding p₃) (hv : IsToken value) (h₄ : IsPadding p₄) :
    ∃ pad, IsPadding pad ∧ written (p₁ ++ key ++ p₂ ++ delimiter :: (p₃ ++ value ++ p₄)) =
      key ++ p₂ ++ delimiter :: (pad ++ value) := by
  have hcomment : ∀ c ∈ p₁ ++ key ++ p₂ ++ delimiter :: (p₃ ++ value ++ p₄),
      isComment c = false := by
    simp only [List.forall_mem_append, List.forall_mem_cons]
    refine ⟨⟨⟨h₁.isComment, hk.isComment⟩, h₂.isComment⟩, ?_, ⟨h₃.isComment, hv.isComment⟩,
      h₄.isComment⟩
    rcases eq_of_isDelimiter hd with rfl | rfl <;> decide
  rw [written_of_forall hcomment]
  by_cases hvalue : value = []
  · subst hvalue
    have hblank : Text.isBlank delimiter = false := by
      rcases eq_of_isDelimiter hd with rfl | rfl <;> decide
    have hright : ∀ c ∈ p₃ ++ p₄, Text.isBlank c :=
      List.forall_mem_append.2 ⟨h₃.isBlank, h₄.isBlank⟩
    have htrim := Text.trim_pad h₁.isBlank hright
      (hk.1.append (Text.isTrimmed_singleton hblank) hne (List.cons_ne_nil _ _) p₂)
    refine ⟨[], isPadding_nil, ?_⟩
    simpa only [List.append_assoc, List.nil_append, List.cons_append, List.append_nil] using htrim
  · have htrim := Text.trim_pad h₁.isBlank h₄.isBlank
      (hk.1.append hv.1 hne hvalue (p₂ ++ delimiter :: p₃))
    refine ⟨p₃, h₃, ?_⟩
    simpa only [List.append_assoc, List.cons_append] using htrim

theorem written_heading {name : List Char} (h₁ : IsPadding p₁) (h₂ : IsPadding p₂)
    (hn : IsToken name) (h₃ : IsPadding p₃) (h₄ : IsPadding p₄) :
    written (p₁ ++ '[' :: (p₂ ++ name ++ p₃ ++ ']' :: p₄)) =
      '[' :: (p₂ ++ name ++ p₃ ++ [']']) := by
  have hcomment : ∀ c ∈ p₁ ++ '[' :: (p₂ ++ name ++ p₃ ++ ']' :: p₄), isComment c = false := by
    simp only [List.forall_mem_append, List.forall_mem_cons]
    exact ⟨h₁.isComment, by decide, ⟨⟨h₂.isComment, hn.isComment⟩, h₃.isComment⟩, by decide,
      h₄.isComment⟩
  have hopen : Text.IsTrimmed ['['] := Text.isTrimmed_singleton (by decide)
  have hclose : Text.IsTrimmed [']'] := Text.isTrimmed_singleton (by decide)
  have htrim := Text.trim_pad h₁.isBlank h₄.isBlank
    (hopen.append hclose (List.cons_ne_nil _ _) (List.cons_ne_nil _ _) (p₂ ++ name ++ p₃))
  rw [written_of_forall hcomment]
  simpa only [List.append_assoc, List.cons_append, List.nil_append] using htrim

/-- **A line** is read as what it spells. -/
theorem readLine_of_spellsLine {line : Line} {text : List Char} (h : SpellsLine line text)
    (number : Nat) : readLine number text = .ok line := by
  induction h with
  | @blank pad hp =>
    have hw : written pad = [] := by
      rw [written_of_forall (IsPadding.isComment hp), Text.trim_of_all (IsPadding.isBlank hp)]
    exact readLine_of_written_eq_nil hw number
  | heading h₁ h₂ hn _ h₃ h₄ =>
    rw [readLine_of_written_eq_bracket (written_heading h₁ h₂ hn h₃ h₄),
      readHeading_pad h₂ hn h₃]
  | assignment h₁ hk hne h₂ hd h₃ hv h₄ =>
    obtain ⟨pad, hpad, hw⟩ := written_assignment h₁ hk hne h₂ hd h₃ hv h₄
    rw [readLine_of_key hk hne (hw.trans (List.append_assoc _ _ _)), ← List.append_assoc,
      readAssignment_pad hk hne h₂ hd hpad hv]
  | @bareKey p₁ key p₂ h₁ hk hne h₂ =>
    have hcomment : ∀ c ∈ p₁ ++ key ++ p₂, isComment c = false := by
      simp only [List.forall_mem_append]
      exact ⟨⟨h₁.isComment, hk.isComment⟩, h₂.isComment⟩
    have hw : written (p₁ ++ key ++ p₂) = key ++ [] := by
      rw [written_of_forall hcomment, Text.trim_pad h₁.isBlank h₂.isBlank hk.1, List.append_nil]
    rw [readLine_of_key hk hne hw, List.append_nil, readAssignment_bare hk]
  | comment _ hm _ ih => rw [readLine_append_comment number _ _ hm, ih]

end

/-! ### Texts -/

/-- A line has no line end in it. -/
theorem SpellsLine.not_mem {line : Line} {text : List Char} (h : SpellsLine line text) :
    '\n' ∉ text := by
  have hpad : ∀ {pad}, IsPadding pad → '\n' ∉ pad := fun hp hc => (hp _ hc).2 rfl
  have htoken : ∀ {t}, IsToken t → '\n' ∉ t := fun ht hc => absurd (ht.2 _ hc) (by decide)
  induction h with
  | blank hp => exact hpad hp
  | heading h₁ h₂ hn _ h₃ h₄ =>
    simp [hpad h₁, hpad h₂, htoken hn, hpad h₃, hpad h₄]
  | assignment h₁ hk _ h₂ hd h₃ hv h₄ =>
    rcases eq_of_isDelimiter hd with rfl | rfl <;>
      simp [hpad h₁, htoken hk, hpad h₂, hpad h₃, htoken hv, hpad h₄]
  | bareKey h₁ hk _ h₂ => simp [hpad h₁, htoken hk, hpad h₂]
  | @comment _ _ _ mark _ hm hn ih =>
    have hmark : '\n' ≠ mark := by
      rintro rfl
      exact absurd hm (by decide)
    simp [ih, hn, hmark]

/-- The lines between line ends, the first of which has a number. -/
def readLinesFrom (number : Nat) (pieces : List (List Char)) : Except Fault (List Line) :=
  (pieces.zipIdx number).mapM fun line => readLine line.2 line.1

theorem readLinesFrom_cons {number : Nat} {first : List Char} {line : Line}
    (h : readLine number first = .ok line) (pieces : List (List Char)) :
    readLinesFrom number (first :: pieces) =
      (readLinesFrom (number + 1) pieces).map (line :: ·) := by
  rw [readLinesFrom, List.zipIdx_cons, List.mapM_cons, h, readLinesFrom]
  cases (pieces.zipIdx (number + 1)).mapM fun line => readLine line.2 line.1 <;> rfl

/-- A text is read as the lines that it spells, and as a blank one behind its last line end. -/
theorem readLinesFrom_of_spellsText {lines : List Line} {text : List Char}
    (h : SpellsText lines text) (number : Nat) :
    readLinesFrom number (text.splitOn '\n') = .ok lines ∨
      readLinesFrom number (text.splitOn '\n') = .ok (lines ++ [.blank]) := by
  have hnil : ∀ number, readLinesFrom number [] = .ok [] := fun _ => rfl
  have hblank : SpellsLine .blank [] := .blank isPadding_nil
  induction h generalizing number with
  | nil =>
    right
    rw [List.splitOn_eq_singleton List.not_mem_nil,
      readLinesFrom_cons (readLine_of_spellsLine hblank number), hnil]
    rfl
  | last h =>
    left
    rw [List.splitOn_eq_singleton h.not_mem, readLinesFrom_cons (readLine_of_spellsLine h number),
      hnil]
    rfl
  | cons hf _ ih =>
    rw [List.splitOn_append_cons_self, List.splitOn_eq_singleton hf.not_mem, List.singleton_append,
      readLinesFrom_cons (readLine_of_spellsLine hf number)]
    refine (ih (number + 1)).imp (fun h => ?_) fun h => ?_
    · rw [h]; rfl
    · rw [h]; rfl

/-- **The assignments of a text** are those of the lines that it spells. -/
theorem entries_of_spellsText {lines : List Line} {text : List Char} (h : SpellsText lines text) :
    entries (String.ofList text) = .ok (collect lines) := by
  have hlines : readLines text = readLinesFrom 1 (text.splitOn '\n') := rfl
  rw [entries, String.toList_ofList, hlines]
  rcases readLinesFrom_of_spellsText h 1 with h | h
  · rw [h]; rfl
  · have hblank : collect (lines ++ [.blank]) = collect lines := by
      rw [collect, List.foldl_append]
      rfl
    rw [h, Except.map, hblank]

end FormReply.Ini
