import FormReply.ContentType
import FormReply.Proofs.Lists
import FormReply.Proofs.Text.LetterCase

/-!
# Announced boundaries

A boundary of letters, digits, hyphens and underscores is announced with or without quotes around
it, and read back from either spelling.

* `IsBoundary`: the boundaries that may be announced without quotes;
* `announce`: a content type with a boundary;
* `read?_of_tokens`: a content type of two tokens is read as its parameters;
* `boundary_announce`: **the boundary** is read back.
-/

namespace FormReply.ContentType

/-- The text is made of ASCII letters, digits, hyphens and underscores, of at least one. -/
structure IsBoundary (boundary : String) : Prop where
  ne_empty : boundary ≠ ""
  mem : ∀ c ∈ boundary.toList, c.isAlphanum = true ∨ c = '-' ∨ c = '_'

instance (boundary : String) : Decidable (IsBoundary boundary) :=
  decidable_of_iff (boundary ≠ "" ∧
    (boundary.toList.all fun c => decide (c.isAlphanum = true ∨ c = '-' ∨ c = '_')) = true)
    ⟨fun h => ⟨h.1, all_decide_iff.1 h.2⟩, fun h => ⟨h.1, all_decide_iff.2 h.2⟩⟩

/-- The content type of a stream of parts with a boundary, with or without quotes around it. -/
def announce (isQuoted : Bool) (boundary : String) : String :=
  "multipart/form-data; boundary=" ++ if isQuoted then "\"" ++ boundary ++ "\"" else boundary

variable {boundary : String}

theorem IsBoundary.toList_ne_nil (h : IsBoundary boundary) : boundary.toList ≠ [] := by
  simpa using h.ne_empty

/-- The codes of the characters of a boundary. -/
theorem IsBoundary.range (h : IsBoundary boundary) {c : Char} (hc : c ∈ boundary.toList) :
    0x2D ≤ c.toNat ∧ c.toNat ≤ 0x7A := by
  rcases h.mem c hc with hc | rfl | rfl
  · have := Text.range_of_isAlphanum hc
    omega
  · decide
  · decide

theorem IsBoundary.isToken (h : IsBoundary boundary) :
    ∀ c ∈ boundary.toList, Text.isToken c = true := by
  intro c hc
  rw [Text.isToken]
  rcases h.mem c hc with hc | rfl | rfl
  · rw [hc, Bool.true_or]
  · decide
  · decide

/-! ### Values -/

/-- A boundary is a value without quotes. -/
theorem value?_plain (h : IsBoundary boundary) :
    value? boundary.toList = some ⟨boundary.toList, none⟩ := by
  have ht : boundary.toList.takeWhile Text.isToken = boundary.toList :=
    List.takeWhile_eq_self_iff.2 h.isToken
  have hd : boundary.toList.dropWhile Text.isToken = [] := List.dropWhile_eq_nil_iff.2 h.isToken
  unfold value?
  split
  · next he =>
    have hq := h.range (c := '"') (by rw [he]; exact List.mem_cons_self)
    exact absurd hq (by decide)
  · unfold plainValue?
    simp only [ht, hd]

/-- A boundary may stand between quotes. -/
theorem value?_quoted (h : IsBoundary boundary) :
    value? ('"' :: (boundary.toList ++ ['"'])) = some ⟨boundary.toList, none⟩ := by
  have hquotable : ∀ c ∈ boundary.toList, isQuotable c = true := by
    intro c hc
    have hr := h.range hc
    simp only [isQuotable, decide_eq_true_eq]
    omega
  obtain ⟨first, more, hb⟩ := List.exists_cons_of_ne_nil h.toList_ne_nil
  have hinside : ∀ c ∈ more, (c ≠ '"' && isQuotable c) = true := by
    intro c hc
    have hm : c ∈ boundary.toList := by rw [hb]; exact List.mem_cons_of_mem _ hc
    have hne : c ≠ '"' := by
      rintro rfl
      exact absurd (h.range hm) (by decide)
    simp [hne, hquotable c hm]
  have ht := takeWhile_append_cons hinside (x := '"') (by decide) []
  have hd := dropWhile_append_cons hinside (x := '"') (by decide) []
  have hf := hquotable first (by rw [hb]; exact List.mem_cons_self)
  rw [hb, List.cons_append]
  show quotedValue? (first :: (more ++ ['"'])) = _
  unfold quotedValue?
  simp only [hd, ht, hf, if_true, List.dropWhile_nil]

/-! ### Content types -/

/-- A single parameter. -/
theorem parameters?_single {name written value : List Char} (hname : name ≠ [])
    (htoken : ∀ c ∈ name, Text.isToken c = true) (hv : value? written = some ⟨value, none⟩) :
    parameters? (' ' :: (name ++ '=' :: written)) =
      some [⟨String.ofList name, String.ofList value⟩] := by
  obtain ⟨c, more, rfl⟩ := List.exists_cons_of_ne_nil hname
  have hc : c ≠ ' ' := by
    rintro rfl
    exact absurd (htoken ' ' List.mem_cons_self) (by decide)
  have hs : (' ' :: (c :: more ++ '=' :: written)).dropWhile (· = ' ') =
      c :: (more ++ '=' :: written) := by
    rw [List.dropWhile_cons_of_pos (by decide), List.cons_append,
      List.dropWhile_cons_of_neg (by simpa using hc)]
  have ht := takeWhile_append_cons htoken (x := '=') (by decide) written
  have hd := dropWhile_append_cons htoken (x := '=') (by decide) written
  rw [List.cons_append] at ht hd
  rw [parameters?]
  split
  · next he =>
    rw [hs] at he
    exact absurd he (by simp)
  · next d rest he =>
    obtain ⟨rfl, rfl⟩ : c = d ∧ more ++ '=' :: written = rest := by
      rw [hs] at he
      simpa using he
    dsimp only
    rw [ht]
    split
    · next written' he' =>
      obtain rfl : written = written' := by
        rw [hd] at he'
        simpa using he'
      rw [if_neg (by simp)]
      split
      · next hn =>
        rw [hv] at hn
        exact absurd hn (by simp)
      · next value' hs' =>
        obtain rfl : value = value' := by
          rw [hv] at hs'
          simpa using hs'
        rfl
      · next hs' =>
        rw [hv] at hs'
        exact absurd hs' (by simp)
    · next hne => exact absurd hd (hne written)

/-- The parameters in what follows a media type. -/
def parametersBehind? (tail : List Char) : Option (List Parameter) :=
  match tail with
  | [] => some []
  | _ :: rest => parameters? rest

/-- **A content type of two tokens** is read as the parameters behind them. -/
theorem read?_of_tokens {kind subkind tail : List Char} (hk₁ : kind ≠ [])
    (hk₂ : ∀ c ∈ kind, Text.isToken c = true) (hs₁ : subkind ≠ [])
    (hs₂ : ∀ c ∈ subkind, Text.isToken c = true) (ht : ∀ c ∈ tail.head?, c = ';') :
    read? (kind ++ '/' :: (subkind ++ tail)) = parametersBehind? tail := by
  have hk₃ := takeWhile_append_cons hk₂ (x := '/') (by decide) (subkind ++ tail)
  have hk₄ := dropWhile_append_cons hk₂ (x := '/') (by decide) (subkind ++ tail)
  unfold read? parametersBehind?
  simp only [hk₃, hk₄]
  rw [if_neg (by simpa using hk₁)]
  cases tail with
  | nil =>
    have hs₃ : subkind.dropWhile Text.isToken = [] := List.dropWhile_eq_nil_iff.2 hs₂
    simp only [List.append_nil, hs₃]
  | cons c rest =>
    obtain rfl : c = ';' := ht c rfl
    have hs₃ := takeWhile_append_cons hs₂ (x := ';') (by decide) rest
    have hs₄ := dropWhile_append_cons hs₂ (x := ';') (by decide) rest
    simp only [hs₃, hs₄]
    rw [if_neg (by simpa using hs₁)]

/-- A content type of two tokens and one parameter. -/
theorem read?_single {kind subkind name written value : List Char} (hk₁ : kind ≠ [])
    (hk₂ : ∀ c ∈ kind, Text.isToken c = true) (hs₁ : subkind ≠ [])
    (hs₂ : ∀ c ∈ subkind, Text.isToken c = true) (hn₁ : name ≠ [])
    (hn₂ : ∀ c ∈ name, Text.isToken c = true) (hv : value? written = some ⟨value, none⟩) :
    read? (kind ++ '/' :: (subkind ++ ';' :: ' ' :: (name ++ '=' :: written))) =
      some [⟨String.ofList name, String.ofList value⟩] := by
  rw [read?_of_tokens hk₁ hk₂ hs₁ hs₂ (by simp)]
  exact parameters?_single hn₁ hn₂ hv

/-- The parts of an announcing content type. -/
theorem toList_announce (isQuoted : Bool) (boundary : String) :
    ∃ written, (announce isQuoted boundary).toList =
        "multipart".toList ++ '/' :: ("form-data".toList ++ ';' :: ' ' ::
          ("boundary".toList ++ '=' :: written)) ∧
      written = if isQuoted then '"' :: (boundary.toList ++ ['"']) else boundary.toList := by
  have hp : ∀ written, "multipart/form-data; boundary=".toList ++ written = "multipart".toList ++
      '/' :: ("form-data".toList ++ ';' :: ' ' :: ("boundary".toList ++ '=' :: written)) := by
    intro written
    have h : "multipart/form-data; boundary=".toList = "multipart".toList ++ '/' ::
        ("form-data".toList ++ ';' :: ' ' :: ("boundary".toList ++ ['='])) := by decide +kernel
    rw [h]
    simp only [List.append_assoc, List.cons_append, List.nil_append]
  refine ⟨_, (String.toList_append ..).trans (hp _), ?_⟩
  cases isQuoted
  · rfl
  · rw [if_pos rfl, if_pos rfl, String.toList_append, String.toList_append]
    rfl

/-- **The boundary** is read back from either spelling. -/
theorem boundary_announce (h : IsBoundary boundary) (isQuoted : Bool) :
    ContentType.boundary (announce isQuoted boundary) = .ok boundary := by
  obtain ⟨written, ht, hw⟩ := toList_announce isQuoted boundary
  have hv : value? written = some ⟨boundary.toList, none⟩ := by
    rw [hw]
    cases isQuoted
    · exact value?_plain h
    · exact value?_quoted h
  have hread : read? (announce isQuoted boundary).toList = some [⟨"boundary", boundary⟩] := by
    rw [ht, read?_single (by decide) (all_decide_iff.1 (by decide)) (by decide)
      (all_decide_iff.1 (by decide)) (by decide) (all_decide_iff.1 (by decide)) hv,
      String.ofList_toList, String.ofList_toList]
  have hname : "boundary".map Char.toLower = "boundary" := by decide +kernel
  rw [ContentType.boundary, hread]
  simp only [List.find?_cons_of_pos, hname, decide_true]

theorem essence_announce (isQuoted : Bool) (boundary : String) :
    essence (announce isQuoted boundary) = "multipart/form-data" := by
  obtain ⟨written, ht, -⟩ := toList_announce isQuoted boundary
  have hkind : ∀ c ∈ "multipart/form-data".toList, decide (c ≠ ';') = true :=
    all_decide_iff.1 (by decide)
  have htype := takeWhile_append_cons hkind (x := ';') (by decide)
    (' ' :: ("boundary".toList ++ '=' :: written))
  rw [essence, ht]
  refine Eq.trans ?_ (by decide +kernel : String.ofList
    ((Text.trim "multipart/form-data".toList).map Char.toLower) = "multipart/form-data")
  rw [← htype]
  rfl

end FormReply.ContentType
