import FormReply.Json.Reader
import FormReply.Proofs.Json.Quoted
import FormReply.Proofs.Lists
import FormReply.Proofs.Text.Numeral

/-!
# The tokens of a written value

A written value is cut into tokens at the places where the writer put them together.  A word or an
integer ends where no letter or digit follows, which is so in front of every mark.

* `Value.tokens`: the tokens that a value is written with;
* `IsCut`: characters that are cut into tokens, whatever follows them;
* `isCut_write`: **a written value** is cut into its tokens.
-/

namespace FormReply.Json

open FormReply.Utf8 (asciiChar encode)

/-- The tokens that a value is written with. -/
def Value.tokens : Value → List Token
  | .null => [.null]
  | .bool b => [.bool b]
  | .int n => [.int n]
  | .str s => [.str s]
  | .arr items =>
    .openArr :: [Token.comma].intercalate (items.map fun v => v.tokens) ++ [.closeArr]
  | .obj members =>
    .openObj :: [Token.comma].intercalate
      (members.map fun m => .str m.1 :: .colon :: m.2.tokens) ++ [.closeObj]
termination_by v => sizeOf v
decreasing_by
  · rename_i h
    have := List.sizeOf_lt_of_mem h
    simp; omega
  · rename_i h
    have := List.sizeOf_lt_of_mem h
    have : sizeOf m.2 < sizeOf m := by cases m; simp only [Prod.mk.sizeOf_spec]; omega
    simp; omega

/-- No letter or digit comes next. -/
def StartsAfresh (rest : List Char) : Prop := ∀ c ∈ rest.head?, c.isAlphanum = false

/-- The written characters are cut into the tokens in front of anything but a letter or digit. -/
def IsCut (written : List Char) (ts : List Token) : Prop :=
  ∀ out rest, StartsAfresh rest →
    tokensAfter? out (written ++ rest) = tokensAfter? (ts.reverse ++ out) rest

/-! ### One token -/

theorem tokensAfter?_token {c : Char} {s rest : List Char} {t : Token} (hc : isBlank c = false)
    (ht : token? c s = some (t, rest)) (out : List Token) :
    tokensAfter? out (c :: s) = tokensAfter? (t :: out) rest := by
  rw [tokensAfter?, if_neg (by simp [hc])]
  split
  · next h => rw [ht] at h; simp at h
  · next t' rest' h =>
    rw [ht] at h
    obtain ⟨rfl, rfl⟩ : t = t' ∧ rest = rest' := by simpa using h
    rfl

theorem tokensAfter?_space (out : List Token) (rest : List Char) :
    tokensAfter? out (' ' :: rest) = tokensAfter? out rest := by
  rw [tokensAfter?, if_pos (by decide)]

theorem tokensAfter?_mark {c : Char} {t : Token} (hc : isBlank c = false) (hm : mark? c = some t)
    (out : List Token) (rest : List Char) :
    tokensAfter? out (c :: rest) = tokensAfter? (t :: out) rest :=
  tokensAfter?_token hc (by rw [token?, hm]) out

theorem tokensAfter?_string (out : List Token) (s : String) (rest : List Char) :
    tokensAfter? out ((writeString s).map asciiChar ++ rest) =
      tokensAfter? (.str s :: out) rest := by
  have hs : (writeString s).map asciiChar ++ rest =
      '"' :: ((writeText s.toList).map asciiChar ++ '"' :: rest) := by
    rw [writeString, List.map_append, List.map_cons, List.cons_append, List.cons_append,
      List.append_assoc]
    rfl
  rw [hs]
  exact tokensAfter?_token (by decide) (token?_string s rest) out

/-- What a class of letters or digits takes of a word ends with the word. -/
theorem takeWhile_word {p : Char → Bool} (hp : ∀ c, p c = true → c.isAlphanum = true)
    {word rest : List Char} (hw : ∀ c ∈ word, p c = true) (hr : StartsAfresh rest) :
    (word ++ rest).takeWhile p = word ∧ (word ++ rest).dropWhile p = rest := by
  cases rest with
  | nil =>
    rw [List.append_nil]
    exact ⟨List.takeWhile_eq_self_iff.2 hw, List.dropWhile_eq_nil_iff.2 hw⟩
  | cons c rest =>
    have hc : p c = false := by
      rw [← Bool.not_eq_true]
      intro h
      have := hr c rfl
      rw [hp c h] at this
      exact absurd this (by decide)
    exact ⟨takeWhile_append_cons hw hc rest, dropWhile_append_cons hw hc rest⟩

theorem isAlphanum_of_isDigit (c : Char) (h : c.isDigit = true) : c.isAlphanum = true := by
  simp [Char.isAlphanum, h]

theorem isAlphanum_of_isAlpha (c : Char) (h : c.isAlpha = true) : c.isAlphanum = true := by
  simp [Char.isAlphanum, h]

theorem isCut_word {c : Char} {word : List Char} {t : Token} (hm : mark? c = none)
    (hq : c ≠ '"') (hn : c ≠ '-') (hd : c.isDigit = false) (hb : isBlank c = false)
    (hw : ∀ d ∈ word, d.isAlpha = true) (ht : word? (c :: word) = some t) :
    IsCut (c :: word) [t] := by
  intro out rest hr
  obtain ⟨h₁, h₂⟩ := takeWhile_word isAlphanum_of_isAlpha hw hr
  refine tokensAfter?_token hb ?_ out
  show token? c (word ++ rest) = _
  rw [token?, hm]
  simp [hq, hn, hd, h₁, h₂, ht]

/-! ### Integers -/

theorem head?_toDigits_ne_zero {n : Nat} (hn : 0 < n) : (Nat.toDigits 10 n).head? ≠ some '0' := by
  induction n using Nat.strongRecOn with
  | ind n ih =>
    by_cases h : n < 10
    · have hall : ∀ n < 10, 0 < n → n.digitChar ≠ '0' := by decide
      rw [Nat.toDigits_of_lt_base h]
      simpa using hall n h hn
    · rw [Nat.toDigits_of_base_le (by decide) (by omega),
        List.head?_append_of_ne_nil _ Nat.toDigits_ne_nil]
      exact ih (n / 10) (by omega) (by omega)

/-- **The digits of a number** are read as that number. -/
theorem natural?_toDigits (n : Nat) : natural? (Nat.toDigits 10 n) = some n := by
  have hvalue : (Nat.toDigits 10 n).foldl (fun n c => n * 10 + (c.toNat - 0x30)) 0 = n := by
    have h := Nat.ofDigitChars_ten_toDigits (n := n)
    rw [Nat.ofDigitChars_eq_foldl] at h
    refine Eq.trans ?_ h
    congr 1
    funext m c
    rw [Nat.mul_comm]
    rfl
  have hzero : ∀ c rest, Nat.toDigits 10 n ≠ '0' :: c :: rest := by
    intro c rest he
    rcases Nat.eq_zero_or_pos n with rfl | hn
    · simp [Nat.toDigits_zero] at he
    · exact head?_toDigits_ne_zero hn (by rw [he]; rfl)
  unfold natural?
  split
  · next h => exact absurd h Nat.toDigits_ne_nil
  · next c rest h => exact absurd h (hzero c rest)
  · rw [hvalue]

theorem map_asciiChar_writeInt_ofNat (n : Nat) :
    (writeInt (n : Int)).map asciiChar = Nat.toDigits 10 n := by
  have hs : (toString (n : Int)).toList = Nat.toDigits 10 n := Nat.toList_repr
  rw [writeInt, Utf8.ofString_eq_encode, hs]
  refine Utf8.map_asciiChar_encode fun c hc => ?_
  have := Numeral.range_of_isDigit (Numeral.isDigit_of_mem_toDigits hc)
  omega

theorem map_asciiChar_writeInt_negSucc (n : Nat) :
    (writeInt (Int.negSucc n)).map asciiChar = '-' :: Nat.toDigits 10 (n + 1) := by
  have hs : (toString (Int.negSucc n)).toList = '-' :: Nat.toDigits 10 (n + 1) := by
    show ("-" ++ Nat.repr (n + 1)).toList = _
    rw [String.toList_append, Nat.toList_repr]
    rfl
  rw [writeInt, Utf8.ofString_eq_encode, hs]
  refine Utf8.map_asciiChar_encode fun c hc => ?_
  rcases List.mem_cons.1 hc with rfl | hc
  · decide
  · have := Numeral.range_of_isDigit (Numeral.isDigit_of_mem_toDigits hc)
    omega

/-- A digit begins neither a mark nor a string, and is no blank. -/
theorem digit_facts {c : Char} (h : c.isDigit = true) :
    mark? c = none ∧ c ≠ '"' ∧ c ≠ '-' ∧ isBlank c = false := by
  have hne : ∀ d : Char, d.isDigit = false → c ≠ d := by
    rintro d hd rfl
    rw [h] at hd
    exact absurd hd (by decide)
  refine ⟨?_, hne '"' (by decide), hne '-' (by decide), ?_⟩
  · unfold mark?
    split
    all_goals first | rfl | exact absurd h (by decide)
  · simp [isBlank, hne ' ' (by decide), hne '\t' (by decide), hne '\n' (by decide),
      hne '\r' (by decide)]

/-- **A written integer** is one token. -/
theorem isCut_int (n : Int) : IsCut ((writeInt n).map asciiChar) [.int n] := by
  intro out rest hr
  cases n with
  | ofNat n =>
    rw [Int.ofNat_eq_natCast, map_asciiChar_writeInt_ofNat]
    obtain ⟨c, digits, hc⟩ := List.exists_cons_of_ne_nil (Nat.toDigits_ne_nil (n := n) (b := 10))
    have hall : ∀ d ∈ c :: digits, d.isDigit = true := fun d hd =>
      Numeral.isDigit_of_mem_toDigits (hc ▸ hd)
    obtain ⟨hm, hq, hn, hb⟩ := digit_facts (hall c List.mem_cons_self)
    obtain ⟨h₁, h₂⟩ := takeWhile_word isAlphanum_of_isDigit
      (fun d hd => hall d (List.mem_cons_of_mem _ hd)) hr
    have hnat := natural?_toDigits n
    rw [hc] at hnat ⊢
    refine tokensAfter?_token hb ?_ out
    show token? c (digits ++ rest) = _
    rw [token?, hm]
    simp [hq, hn, hall c List.mem_cons_self, h₁, h₂, integer?, hnat]
  | negSucc n =>
    rw [map_asciiChar_writeInt_negSucc]
    obtain ⟨h₁, h₂⟩ := takeWhile_word isAlphanum_of_isDigit
      (fun d hd => Numeral.isDigit_of_mem_toDigits (n := n + 1) hd) hr
    refine tokensAfter?_token (by decide) ?_ out
    show token? '-' (Nat.toDigits 10 (n + 1) ++ rest) = _
    rw [token?]
    simp [mark?, h₁, h₂, integer?, natural?_toDigits, Int.negSucc_eq]

/-! ### Values -/

theorem startsAfresh_cons {c : Char} (h : c.isAlphanum = false) (rest : List Char) :
    StartsAfresh (c :: rest) := by
  intro d hd
  obtain rfl : c = d := by simpa using hd
  exact h

theorem isCut_nil : IsCut [] [] := fun _ _ _ => rfl

/-- What a comma and a space separate is cut one after the other. -/
theorem IsCut.comma {w₁ w₂ : List Char} {ts₁ ts₂ : List Token} (h₁ : IsCut w₁ ts₁)
    (h₂ : IsCut w₂ ts₂) : IsCut (w₁ ++ ',' :: ' ' :: w₂) (ts₁ ++ .comma :: ts₂) := by
  intro out rest hr
  calc tokensAfter? out (w₁ ++ ',' :: ' ' :: w₂ ++ rest)
      = tokensAfter? out (w₁ ++ ',' :: ' ' :: (w₂ ++ rest)) := by simp
    _ = tokensAfter? (ts₁.reverse ++ out) (',' :: ' ' :: (w₂ ++ rest)) :=
        h₁ out _ (startsAfresh_cons (by decide) _)
    _ = tokensAfter? (.comma :: (ts₁.reverse ++ out)) (w₂ ++ rest) := by
        rw [tokensAfter?_mark (by decide) rfl, tokensAfter?_space]
    _ = tokensAfter? (ts₂.reverse ++ .comma :: (ts₁.reverse ++ out)) rest := h₂ _ rest hr
    _ = tokensAfter? ((ts₁ ++ .comma :: ts₂).reverse ++ out) rest := by simp

/-- **A sequence** is cut if its items are. -/
theorem isCut_intercalate {α : Type} (write : α → Bytes) (tokens : α → List Token) (l : List α)
    (h : ∀ x ∈ l, IsCut ((write x).map asciiChar) (tokens x)) :
    IsCut ((comma.intercalate (l.map write)).map asciiChar)
      ([Token.comma].intercalate (l.map tokens)) := by
  induction l with
  | nil => exact isCut_nil
  | cons x l ih =>
    have hx := h x List.mem_cons_self
    have hl := ih fun y hy => h y (List.mem_cons_of_mem _ hy)
    cases l with
    | nil => simpa using hx
    | cons y l =>
      have hc := hx.comma hl
      rw [intercalate_map_cons_cons, intercalate_map_cons_cons, List.map_append, List.map_append]
      exact hc

theorem IsCut.bracketed {w : List Char} {ts : List Token} (h : IsCut w ts) {c d : Char}
    {t u : Token} (hc : isBlank c = false) (hd : isBlank d = false) (ht : mark? c = some t)
    (hu : mark? d = some u) (hn : d.isAlphanum = false) :
    IsCut (c :: w ++ [d]) (t :: ts ++ [u]) := by
  intro out rest _
  calc tokensAfter? out (c :: w ++ [d] ++ rest)
      = tokensAfter? out (c :: (w ++ d :: rest)) := by simp
    _ = tokensAfter? (t :: out) (w ++ d :: rest) := tokensAfter?_mark hc ht out _
    _ = tokensAfter? (ts.reverse ++ t :: out) (d :: rest) := h _ _ (startsAfresh_cons hn rest)
    _ = tokensAfter? (u :: (ts.reverse ++ t :: out)) rest := tokensAfter?_mark hd hu _ rest
    _ = tokensAfter? ((t :: ts ++ [u]).reverse ++ out) rest := by simp

theorem isCut_string (s : String) : IsCut ((writeString s).map asciiChar) [.str s] :=
  fun out rest _ => tokensAfter?_string out s rest

/-- A member is its name, a colon and its value. -/
theorem isCut_member (name : String) {w : Bytes} {ts : List Token}
    (h : IsCut (w.map asciiChar) ts) :
    IsCut ((writeString name ++ colon ++ w).map asciiChar) (.str name :: .colon :: ts) := by
  intro out rest hr
  calc tokensAfter? out ((writeString name ++ colon ++ w).map asciiChar ++ rest)
      = tokensAfter? out ((writeString name).map asciiChar ++
          ':' :: ' ' :: (w.map asciiChar ++ rest)) := by
        rw [List.map_append, List.map_append, List.append_assoc, List.append_assoc]
        rfl
    _ = tokensAfter? (.colon :: .str name :: out) (w.map asciiChar ++ rest) := by
        rw [tokensAfter?_string, tokensAfter?_mark (by decide) rfl, tokensAfter?_space]
    _ = tokensAfter? (ts.reverse ++ .colon :: .str name :: out) rest := h _ rest hr
    _ = tokensAfter? ((.str name :: .colon :: ts).reverse ++ out) rest := by simp

/-- **A written value** is cut into its tokens. -/
theorem isCut_write (v : Value) : IsCut (v.write.map asciiChar) v.tokens := by
  induction v using Value.write.induct with
  | case1 =>
    rw [Value.write, Value.tokens]
    exact isCut_word rfl (by decide) (by decide) (by decide) (by decide)
      (all_decide_iff.1 (by decide)) (by decide)
  | case2 =>
    rw [Value.write, Value.tokens]
    exact isCut_word rfl (by decide) (by decide) (by decide) (by decide)
      (all_decide_iff.1 (by decide)) (by decide)
  | case3 =>
    rw [Value.write, Value.tokens]
    exact isCut_word rfl (by decide) (by decide) (by decide) (by decide)
      (all_decide_iff.1 (by decide)) (by decide)
  | case4 n =>
    rw [Value.write, Value.tokens]
    exact isCut_int n
  | case5 s =>
    rw [Value.write, Value.tokens]
    exact isCut_string s
  | case6 items ih =>
    rw [Value.write, Value.tokens, List.map_append, List.map_cons]
    exact (isCut_intercalate _ _ items ih).bracketed (by decide) (by decide) rfl rfl (by decide)
  | case7 members ih =>
    rw [Value.write, Value.tokens, List.map_append, List.map_cons]
    have hm := isCut_intercalate _ _ members fun m hm => isCut_member m.1 (ih m hm)
    exact hm.bracketed (by decide) (by decide) rfl rfl (by decide)

end FormReply.Json
