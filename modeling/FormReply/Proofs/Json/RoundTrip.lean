import FormReply.Form.Json
import FormReply.Proofs.Json.Tokens

/-!
# JSON there and back

The reader takes the tokens of a value as that value wherever it awaits one, so a written value is
read as itself.  What is written is printable ASCII, in which every byte is one character.

* `IsTakenAs`: tokens that the reader takes as a value;
* `isTakenAs_tokens`: **the tokens of a value** are taken as that value;
* `isPrintableByte_of_mem_write`: a written value is printable ASCII;
* `read?_write`: **a written value** is read as itself;
* `write_faithful`: all of this at once, for values and for forms.
-/

namespace FormReply.Json

open FormReply.Utf8 (asciiChar)

/-- Where a value is awaited, the tokens are taken as the value, whatever follows them. -/
def IsTakenAs (ts : List Token) (v : Value) : Prop :=
  ∀ stack more, (State.value stack).run? (ts ++ more) = (State.complete v stack).run? more

/-! ### One container -/

/-- In front of its first item, an array takes all but its end as it takes later items. -/
theorem step?_firstItem {t : Token} (ht : t ≠ .closeArr) (stack : List Frame) :
    (State.firstItem stack).step? t = (State.value (.items [] :: stack)).step? t := by
  unfold State.step?
  split <;> simp_all

/-- No value begins with the end of an array. -/
theorem head?_tokens (v : Value) : ∃ t ts, v.tokens = t :: ts ∧ t ≠ .closeArr := by
  cases v with
  | null => exact ⟨_, _, by rw [Value.tokens], by simp⟩
  | bool b => exact ⟨_, _, by rw [Value.tokens], by simp⟩
  | int n => exact ⟨_, _, by rw [Value.tokens], by simp⟩
  | str s => exact ⟨_, _, by rw [Value.tokens], by simp⟩
  | arr items => exact ⟨_, _, by rw [Value.tokens, List.cons_append], by simp⟩
  | obj members => exact ⟨_, _, by rw [Value.tokens, List.cons_append], by simp⟩

theorem run?_firstItem (v : Value) (stack : List Frame) (more : List Token) :
    (State.firstItem stack).run? (v.tokens ++ more) =
      (State.value (.items [] :: stack)).run? (v.tokens ++ more) := by
  obtain ⟨t, ts, hv, ht⟩ := head?_tokens v
  rw [hv, List.cons_append, State.run?_cons, State.run?_cons, step?_firstItem ht]

/-- **The items of an array,** from any of them on. -/
theorem run?_items (v : Value) (items done : List Value) (stack : List Frame) (more : List Token)
    (h : ∀ w ∈ v :: items, IsTakenAs w.tokens w) :
    (State.value (.items done :: stack)).run?
        ([Token.comma].intercalate ((v :: items).map Value.tokens) ++ .closeArr :: more) =
      (State.complete (.arr (done.reverse ++ v :: items)) stack).run? more := by
  induction items generalizing v done with
  | nil =>
    have hv := h v List.mem_cons_self (.items done :: stack) (.closeArr :: more)
    rw [List.map_singleton, List.intercalate_singleton, hv]
    simp [State.complete, State.step?]
  | cons w items ih =>
    have hv := h v List.mem_cons_self (.items done :: stack)
    have hw := ih w (v :: done) fun u hu => h u (List.mem_cons_of_mem _ hu)
    rw [intercalate_map_cons_cons, List.append_assoc, List.append_assoc, hv, List.singleton_append,
      State.complete, State.run?_cons, State.step?, Option.bind_some, hw]
    simp

/-- **The members of an object,** from any of them on. -/
theorem run?_members (m : String × Value) (members done : List (String × Value))
    (stack : List Frame) (more : List Token) (h : ∀ w ∈ m :: members, IsTakenAs w.2.tokens w.2) :
    (State.nextName done stack).run?
        ([Token.comma].intercalate ((m :: members).map fun m => .str m.1 :: .colon :: m.2.tokens) ++
          .closeObj :: more) =
      (State.complete (.obj (done.reverse ++ m :: members)) stack).run? more := by
  have hm : ∀ more, (State.nextName done stack).run? (.str m.1 :: .colon :: (m.2.tokens ++ more)) =
      (State.afterMember (m :: done) stack).run? more := by
    intro more
    exact h m List.mem_cons_self (.members done m.1 :: stack) more
  induction members generalizing m done with
  | nil =>
    rw [List.map_singleton, List.intercalate_singleton, List.cons_append, List.cons_append, hm]
    simp [State.step?]
  | cons w members ih =>
    have hw := ih w (m :: done) (fun u hu => h u (List.mem_cons_of_mem _ hu)) fun more =>
      h w (List.mem_cons_of_mem _ List.mem_cons_self) (.members (m :: done) w.1 :: stack) more
    rw [intercalate_map_cons_cons, List.append_assoc, List.append_assoc, List.cons_append,
      List.cons_append, hm, List.singleton_append, State.run?_cons, State.step?, Option.bind_some,
      hw]
    simp

/-! ### Values -/

/-- **The tokens of a value** are taken as that value. -/
theorem isTakenAs_tokens (v : Value) : IsTakenAs v.tokens v := by
  intro stack more
  induction v using Value.tokens.induct generalizing stack more with
  | case1 => rw [Value.tokens]; rfl
  | case2 b => rw [Value.tokens]; rfl
  | case3 n => rw [Value.tokens]; rfl
  | case4 s => rw [Value.tokens]; rfl
  | case5 items ih =>
    rw [Value.tokens, List.append_assoc, List.cons_append, State.run?_cons]
    show (State.firstItem stack).run? _ = _
    cases items with
    | nil => rfl
    | cons v items =>
      have hi := run?_items v items [] stack more ih
      -- The first item is read where the array could have ended.
      obtain ⟨rest, hrest⟩ : ∃ rest, [Token.comma].intercalate ((v :: items).map Value.tokens) ++
          .closeArr :: more = v.tokens ++ rest := by
        cases items with
        | nil => exact ⟨_, by rw [List.map_singleton, List.intercalate_singleton]⟩
        | cons w items => exact ⟨_, by rw [intercalate_map_cons_cons, List.append_assoc]⟩
      show (State.firstItem stack).run? (_ ++ .closeArr :: more) = _
      rw [hrest, run?_firstItem, ← hrest]
      exact hi
  | case6 members ih =>
    rw [Value.tokens, List.append_assoc, List.cons_append, State.run?_cons]
    show (State.firstName stack).run? _ = _
    cases members with
    | nil => rfl
    | cons m members =>
      have hi := run?_members m members [] stack more ih
      cases members with
      | nil => exact hi
      | cons w members => exact hi

/-! ### Bytes -/

theorem isPrintableByte_of_mem_shortEscape? {c : Char} {escape : Bytes}
    (h : shortEscape? c = some escape) : ∀ b ∈ escape, IsPrintableByte b := by
  unfold shortEscape? at h
  split at h
  case h_8 =>
    split at h
    · obtain rfl : escapeUnit c.toNat = escape := by simpa using h
      exact fun b hb => isPrintableByte_of_mem_escapeUnit hb
    · simp at h
  all_goals
    obtain rfl := Option.some.inj h
    exact all_decide_iff.1 (by decide)

theorem isPrintableByte_of_mem_writeString {s : String} {b : UInt8} (h : b ∈ writeString s) :
    IsPrintableByte b := by
  have htext : ∀ b ∈ writeText s.toList, IsPrintableByte b := by
    intro b hb
    rw [writeText_eq_flatMap, List.mem_flatMap] at hb
    obtain ⟨c, -, hb⟩ := hb
    unfold escapeChar at hb
    cases hs : shortEscape? c with
    | some escape => rw [hs] at hb; exact isPrintableByte_of_mem_shortEscape? hs b hb
    | none => rw [hs] at hb; exact isPrintableByte_of_mem_writeChar hb
  rw [writeString, List.mem_append, List.mem_cons, List.mem_singleton] at h
  rcases h with (rfl | h) | rfl
  · decide
  · exact htext b h
  · decide

theorem isPrintableByte_of_asciiChar {b : UInt8}
    (h : (asciiChar b).isDigit = true ∨ asciiChar b = '-') : IsPrintableByte b := by
  rw [isPrintableByte_iff, ← Utf8.toNat_asciiChar]
  rcases h with h | h
  · have := Numeral.range_of_isDigit h
    omega
  · rw [h]
    decide

theorem isPrintableByte_of_mem_writeInt {n : Int} {b : UInt8} (h : b ∈ writeInt n) :
    IsPrintableByte b := by
  have hb : asciiChar b ∈ (writeInt n).map asciiChar := List.mem_map_of_mem h
  refine isPrintableByte_of_asciiChar ?_
  cases n with
  | ofNat n =>
    rw [Int.ofNat_eq_natCast, map_asciiChar_writeInt_ofNat] at hb
    exact Or.inl (Numeral.isDigit_of_mem_toDigits hb)
  | negSucc n =>
    rw [map_asciiChar_writeInt_negSucc, List.mem_cons] at hb
    rcases hb with hb | hb
    · exact Or.inr hb
    · exact Or.inl (Numeral.isDigit_of_mem_toDigits hb)

/-- Between two brackets and in a sequence stand only commas, spaces and the items. -/
theorem isPrintableByte_of_mem_intercalate {l : List Bytes}
    (h : ∀ w ∈ l, ∀ b ∈ w, IsPrintableByte b) {b : UInt8} (hb : b ∈ comma.intercalate l) :
    IsPrintableByte b := by
  induction l with
  | nil => simp at hb
  | cons w l ih =>
    have hw := h w List.mem_cons_self
    have hl := ih fun v hv => h v (List.mem_cons_of_mem _ hv)
    cases l with
    | nil => exact hw b (by simpa using hb)
    | cons v l =>
      rw [List.intercalate_cons_cons, List.mem_append, List.mem_append] at hb
      rcases hb with (hb | hb) | hb
      · exact hw b hb
      · have hcomma : ∀ b ∈ comma, IsPrintableByte b := all_decide_iff.1 (by decide)
        exact hcomma b hb
      · exact hl hb

/-- **A written value** is printable ASCII. -/
theorem isPrintableByte_of_mem_write {v : Value} {b : UInt8} (h : b ∈ v.write) :
    IsPrintableByte b := by
  have hbrackets : ∀ {c d : UInt8} {l : List Bytes}, IsPrintableByte c → IsPrintableByte d →
      (∀ w ∈ l, ∀ b ∈ w, IsPrintableByte b) → ∀ b ∈ c :: comma.intercalate l ++ [d],
        IsPrintableByte b := by
    intro c d l hc hd hl b hb
    rw [List.mem_append, List.mem_cons, List.mem_singleton] at hb
    rcases hb with (rfl | hb) | rfl
    · exact hc
    · exact isPrintableByte_of_mem_intercalate hl hb
    · exact hd
  induction v using Value.write.induct generalizing b with
  | case1 => rw [Value.write] at h; exact all_decide_iff.1 (by decide) b h
  | case2 => rw [Value.write] at h; exact all_decide_iff.1 (by decide) b h
  | case3 => rw [Value.write] at h; exact all_decide_iff.1 (by decide) b h
  | case4 n => rw [Value.write] at h; exact isPrintableByte_of_mem_writeInt h
  | case5 s => rw [Value.write] at h; exact isPrintableByte_of_mem_writeString h
  | case6 items ih =>
    rw [Value.write] at h
    refine hbrackets (by decide) (by decide) (fun w hw b hb => ?_) b h
    obtain ⟨v, hv, rfl⟩ := List.mem_map.1 hw
    exact ih v hv hb
  | case7 members ih =>
    rw [Value.write] at h
    refine hbrackets (by decide) (by decide) (fun w hw b hb => ?_) b h
    obtain ⟨m, hm, rfl⟩ := List.mem_map.1 hw
    rw [List.mem_append, List.mem_append] at hb
    rcases hb with (hb | hb) | hb
    · exact isPrintableByte_of_mem_writeString hb
    · have hcolon : ∀ b ∈ colon, IsPrintableByte b := all_decide_iff.1 (by decide)
      exact hcolon b hb
    · exact ih m hm hb

/-- **A written value** is read as itself. -/
theorem read?_write (v : Value) : read? v.write = some v := by
  have hascii : ∀ b ∈ v.write, b < 0x80 := by
    intro b hb
    have := (isPrintableByte_iff.1 (isPrintableByte_of_mem_write hb)).2
    rw [UInt8.lt_iff_toNat_lt]
    show b.toNat < 128
    omega
  have htokens : tokens? (v.write.map asciiChar) = some v.tokens := by
    have h := isCut_write v [] [] (by simp [StartsAfresh])
    rw [List.append_nil, List.append_nil, tokensAfter?, List.reverse_reverse] at h
    exact h
  have hrun := isTakenAs_tokens v [] []
  rw [List.append_nil] at hrun
  rw [read?, Utf8.decode?_ascii hascii, Option.bind_some, readText?, htokens]
  simp [hrun, State.complete, State.value?]

theorem toJson_injective {f g : Form} (h : f.toJson = g.toJson) : f = g := by
  have hfield : Function.Injective fun x : Field => (x.name, x.toJson) := by
    rintro ⟨n, v⟩ ⟨m, w⟩ hx
    obtain ⟨rfl, hv⟩ : n = m ∧ v.elim .null .str = w.elim Value.null .str := by
      simpa [Field.toJson] using hx
    cases v with
    | none =>
      cases w with
      | none => rfl
      | some t => simp at hv
    | some s =>
      cases w with
      | none => simp at hv
      | some t =>
        obtain rfl : s = t := by simpa using hv
        rfl
  rw [Form.toJson, Form.toJson, Value.obj.injEq] at h
  exact Form.ext (List.map_injective_iff.2 hfield h)

/-- **Writing is faithful.**  Every value is written in printable ASCII and read as itself; a form
is read as the object of its fields, in order, with `null` for an absent value, and so two forms are
written alike only if they are equal. -/
theorem write_faithful :
    (∀ v : Value, (∀ b ∈ v.write, 0x20 ≤ b ∧ b ≤ 0x7E) ∧ read? v.write = some v) ∧
      (∀ f : Form, read? f.write =
        some (.obj (f.fields.map fun x => (x.name, x.value.elim .null .str)))) ∧
      ∀ f g : Form, f.write = g.write ↔ f = g := by
  have hread : ∀ f : Form, read? f.write = some f.toJson := fun f => read?_write f.toJson
  refine ⟨fun v => ⟨fun b hb => isPrintableByte_of_mem_write hb, read?_write v⟩, hread, ?_⟩
  intro f g
  constructor
  · intro h
    have hobj : f.toJson = g.toJson := by
      have hf := hread f
      rw [h, hread g] at hf
      exact (Option.some.inj hf).symm
    exact toJson_injective hobj
  · rintro rfl
    rfl

end FormReply.Json
