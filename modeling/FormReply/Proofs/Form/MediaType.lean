import FormReply.Proofs.ContentType
import FormReply.Proofs.Form.Body

/-!
# Spellings of a media type

A media type is compared in lowercase and without the blanks around it, so the encoding that it
announces does not depend on how it is spelled.  But where the parameters are read, no blank is
welcome around the media type.  So a content type of parts may be spelled in any case of letters,
and with a blank before or behind its media type it still announces parts, whose boundary is then
not found.

* `ContentType.Respelling`: a content type and another spelling of its media type;
* `essence_after`: both announce the same encoding;
* `read?_padded`: **a blank** around a media type of parts hides the parameters;
* `boundary_after`: the boundary of the other spelling;
* `ofBody_respelled`: **the form of a body** under both spellings;
* `blank_behind_media_type_hides_boundary`: a body that is refused for a blank.
-/

namespace FormReply

namespace ContentType

/-- A content type, and another spelling of its media type: with blanks around it and letters in
another case. -/
structure Respelling where
  /-- The media type. -/
  kind : List Char
  /-- What follows the media type: nothing, or parameters behind a `;`. -/
  tail : List Char
  /-- The media type with letters in another case. -/
  spelled : List Char
  /-- What stands before the media type. -/
  left : List Char
  /-- What stands behind the media type. -/
  right : List Char
  not_mem_kind : ';' ∉ kind
  head_tail : ∀ c ∈ tail.head?, c = ';'
  map_spelled : spelled.map Char.toLower = kind.map Char.toLower
  isBlank_left : ∀ c ∈ left, Text.isBlank c = true
  isBlank_right : ∀ c ∈ right, Text.isBlank c = true

namespace Respelling

/-- The content type. -/
def before (r : Respelling) : String := String.ofList (r.kind ++ r.tail)

/-- The content type with its media type in the other spelling. -/
def after (r : Respelling) : String :=
  String.ofList (r.left ++ r.spelled ++ r.right ++ r.tail)

/-- No blank is put before or behind the media type. -/
def IsTight (r : Respelling) : Prop := r.left = [] ∧ r.right = []

instance (r : Respelling) : Decidable r.IsTight := inferInstanceAs (Decidable (_ ∧ _))

end Respelling

/-! ### The encoding -/

theorem takeWhile_kind {kind tail : List Char} (hk : ';' ∉ kind) (ht : ∀ c ∈ tail.head?, c = ';') :
    (kind ++ tail).takeWhile (· ≠ ';') = kind := by
  have hkind : ∀ c ∈ kind, decide (c ≠ ';') = true := by
    intro c hc
    rw [decide_eq_true_iff]
    rintro rfl
    exact hk hc
  cases tail with
  | nil => rw [List.append_nil, List.takeWhile_eq_self_iff.2 hkind]
  | cons c rest =>
    obtain rfl : c = ';' := ht c rfl
    exact takeWhile_append_cons hkind (by decide) rest

theorem essence_ofList {kind tail : List Char} (hk : ';' ∉ kind)
    (ht : ∀ c ∈ tail.head?, c = ';') :
    essence (String.ofList (kind ++ tail)) = String.ofList ((Text.trim kind).map Char.toLower) := by
  rw [essence, String.toList_ofList, takeWhile_kind hk ht]

variable (r : Respelling)

theorem not_mem_spelled : ';' ∉ r.left ++ r.spelled ++ r.right := by
  intro h
  rw [List.mem_append, List.mem_append] at h
  rcases h with (h | h) | h
  · exact absurd (r.isBlank_left ';' h) (by decide)
  · have hlower : ';' ∈ r.kind.map Char.toLower := by
      rw [← r.map_spelled]
      exact List.mem_map.2 ⟨';', h, by decide⟩
    obtain ⟨c, hc, he⟩ := List.mem_map.1 hlower
    rw [Text.toLower_eq_iff (by decide)] at he
    exact r.not_mem_kind (he ▸ hc)
  · exact absurd (r.isBlank_right ';' h) (by decide)

/-- **The encoding** that is announced does not depend on the spelling. -/
theorem essence_after : essence r.after = essence r.before := by
  rw [Respelling.after, Respelling.before, essence_ofList (not_mem_spelled r) r.head_tail,
    essence_ofList r.not_mem_kind r.head_tail,
    Text.trim_append_append r.isBlank_left r.isBlank_right, ← Text.trim_map_toLower, r.map_spelled,
    Text.trim_map_toLower]

theorem encoding_after : encoding r.after = encoding r.before := by
  unfold encoding
  rw [essence_after]

/-! ### The boundary -/

/-- A media type of parts consists of two tokens, in any case of letters. -/
theorem exists_tokens_of_map_toLower {kind : List Char}
    (h : kind.map Char.toLower = "multipart/form-data".toList) :
    ∃ first second, kind = first ++ '/' :: second ∧
      (first ≠ [] ∧ ∀ c ∈ first, Text.isToken c = true) ∧
      second ≠ [] ∧ ∀ c ∈ second, Text.isToken c = true := by
  have hsplit : "multipart/form-data".toList = "multipart".toList ++ '/' :: "form-data".toList := by
    decide
  have htoken : ∀ {part lower : List Char}, part.map Char.toLower = lower →
      (lower ≠ [] ∧ ∀ c ∈ lower, Text.isToken c = true) →
      part ≠ [] ∧ ∀ c ∈ part, Text.isToken c = true := by
    rintro part _ rfl ⟨hne, hall⟩
    refine ⟨fun hp => hne (by rw [hp, List.map_nil]), fun c hc => ?_⟩
    rw [← Text.isToken_toLower]
    exact hall _ (List.mem_map_of_mem hc)
  rw [hsplit, List.map_eq_append_iff] at h
  obtain ⟨first, more, rfl, hfirst, hmore⟩ := h
  obtain ⟨slash, second, rfl, hslash, hsecond⟩ := List.map_eq_cons_iff.1 hmore
  obtain rfl : slash = '/' := (Text.toLower_eq_iff (by decide)).1 hslash
  exact ⟨first, second, rfl,
    htoken hfirst ⟨by decide, all_decide_iff.1 (by decide)⟩,
    htoken hsecond ⟨by decide, all_decide_iff.1 (by decide)⟩⟩

/-- A text that begins with a blank begins with no media type. -/
theorem read?_of_isBlank {c : Char} (hc : Text.isBlank c = true) (rest : List Char) :
    read? (c :: rest) = none := by
  have hdrop : (c :: rest).dropWhile Text.isToken = c :: rest :=
    List.dropWhile_cons_of_neg (by rw [Text.isToken_of_isBlank hc]; decide)
  unfold read?
  rw [hdrop]
  split
  · next h =>
    obtain rfl := (List.cons.inj h).1
    exact absurd hc (by decide)
  · rfl

/-- A blank behind two tokens does not belong to a content type. -/
theorem read?_append_of_isBlank {first second : List Char}
    (hfirst : ∀ c ∈ first, Text.isToken c = true) (hsecond : ∀ c ∈ second, Text.isToken c = true)
    {c : Char} (hc : Text.isBlank c = true) (rest : List Char) :
    read? (first ++ '/' :: (second ++ c :: rest)) = none := by
  have hd₁ := dropWhile_append_cons hfirst (x := '/') (by decide) (second ++ c :: rest)
  have hd₂ := dropWhile_append_cons hsecond (Text.isToken_of_isBlank hc) rest
  unfold read?
  simp only [hd₁, hd₂]
  split
  · rfl
  · split
    · next h => exact absurd h (List.cons_ne_nil c rest)
    · next h =>
      obtain rfl := (List.cons.inj h).1
      exact absurd hc (by decide)
    · rfl

/-- **A blank** before or behind a media type of parts hides the parameters. -/
theorem read?_padded {left kind right tail : List Char} (hl : ∀ c ∈ left, Text.isBlank c = true)
    (hr : ∀ c ∈ right, Text.isBlank c = true)
    (hk : kind.map Char.toLower = "multipart/form-data".toList) (ht : ∀ c ∈ tail.head?, c = ';') :
    read? (left ++ kind ++ right ++ tail) =
      if left = [] ∧ right = [] then parametersBehind? tail else none := by
  obtain ⟨first, second, rfl, ⟨hf₁, hf₂⟩, hs₁, hs₂⟩ := exists_tokens_of_map_toLower hk
  cases left with
  | cons c left =>
    rw [if_neg (by simp)]
    exact read?_of_isBlank (hl c List.mem_cons_self) _
  | nil =>
    cases right with
    | cons c right =>
      rw [if_neg (by simp)]
      simp only [List.nil_append, List.append_assoc, List.cons_append]
      exact read?_append_of_isBlank hf₂ hs₂ (hr c List.mem_cons_self) _
    | nil =>
      rw [if_pos ⟨rfl, rfl⟩]
      simp only [List.nil_append, List.append_nil, List.append_assoc, List.cons_append]
      exact read?_of_tokens hf₁ hf₂ hs₁ hs₂ ht

/-- The other spelling of a content type of parts is read as the first one, unless blanks are put
around its media type. -/
theorem read?_after (h : essence r.before = "multipart/form-data") :
    read? r.after.toList = if r.IsTight then read? r.before.toList else none := by
  obtain ⟨a, b, a', b', middle, hkind, hspelled, hmiddle, hpad, hpad', hnil, hnil'⟩ :=
    Text.exists_pads_of_map_toLower r.map_spelled
  have hlower : (Text.trim r.kind).map Char.toLower = "multipart/form-data".toList := by
    rw [← h, Respelling.before, essence_ofList r.not_mem_kind r.head_tail, String.toList_ofList]
  have hbefore : r.before.toList = a ++ Text.trim r.kind ++ b ++ r.tail := by
    rw [Respelling.before, String.toList_ofList, ← hkind]
  have hafter : r.after.toList = (r.left ++ a') ++ middle ++ (b' ++ r.right) ++ r.tail := by
    rw [Respelling.after, String.toList_ofList, hspelled]
    simp only [List.append_assoc]
  rw [List.forall_mem_append] at hpad hpad'
  have hleft := List.forall_mem_append.2 ⟨r.isBlank_left, hpad'.1⟩
  have hright := List.forall_mem_append.2 ⟨hpad'.2, r.isBlank_right⟩
  rw [hbefore, hafter, read?_padded hpad.1 hpad.2 hlower r.head_tail,
    read?_padded hleft hright (hmiddle.trans hlower) r.head_tail, ← ite_and]
  refine if_congr ?_ rfl rfl
  rw [List.append_eq_nil_iff, List.append_eq_nil_iff, hnil, hnil', and_comm (a := b = []),
    and_and_and_comm, Respelling.IsTight]

/-- **The boundary** of the other spelling of a content type of parts. -/
theorem boundary_after (h : essence r.before = "multipart/form-data") :
    boundary r.after = if r.IsTight then boundary r.before else .error .malformed := by
  have hread := read?_after r h
  by_cases ht : r.IsTight
  · rw [if_pos ht] at hread ⊢
    rw [boundary, boundary, hread]
  · rw [if_neg ht] at hread ⊢
    rw [boundary, hread]

end ContentType

/-! ### Forms -/

namespace Form

/-- The form of a body depends on the encoding that is announced and, for parts, on the boundary. -/
theorem ofBody_congr {contentType contentType' : String}
    (he : ContentType.encoding contentType' = ContentType.encoding contentType)
    (hb : ContentType.encoding contentType = .multipart →
      ContentType.boundary contentType' = ContentType.boundary contentType)
    (keepBlank : Bool) (body : Bytes) :
    ofBody contentType' keepBlank body = ofBody contentType keepBlank body := by
  unfold ofBody fieldsOfBody Multipart.partsOfBody
  rw [he]
  cases h : ContentType.encoding contentType with
  | urlEncoded => rfl
  | unsupported => rfl
  | multipart => rw [hb h]

theorem ofBody_of_boundary_error {contentType : String}
    (h : ContentType.encoding contentType = .multipart) {e : ContentType.BoundaryError}
    (hb : ContentType.boundary contentType = .error e) (keepBlank : Bool) (body : Bytes) :
    ofBody contentType keepBlank body = .error (.multipart (.boundary e)) := by
  apply ofBody_eq_error
  rw [fieldsOfBody, h]
  simp only [Multipart.partsOfBody, hb]

open ContentType in
/-- **The form of a body under two spellings of its media type.**  Both announce the same encoding,
and every body has the same form, or the same fault, under both, with one exception: with a blank
put before or behind a media type of parts, no boundary is found and every body is refused. -/
theorem ofBody_respelled (r : Respelling) :
    isMultipart r.after = isMultipart r.before ∧
      ∀ keepBlank body, ofBody r.after keepBlank body =
        if isMultipart r.before = true ∧ ¬ r.IsTight then
          .error (.multipart (.boundary .malformed))
        else ofBody r.before keepBlank body := by
  have he := encoding_after r
  refine ⟨by rw [isMultipart, isMultipart, he], fun keepBlank body => ?_⟩
  have hiff : isMultipart r.before = true ↔ encoding r.before = .multipart := by
    rw [isMultipart, decide_eq_true_iff]
  by_cases hm : encoding r.before = .multipart
  · have hb := boundary_after r (encoding_eq_multipart_iff.1 hm)
    by_cases ht : r.IsTight
    · rw [if_neg fun h => h.2 ht]
      rw [if_pos ht] at hb
      exact ofBody_congr he (fun _ => hb) keepBlank body
    · rw [if_pos ⟨hiff.2 hm, ht⟩]
      rw [if_neg ht] at hb
      exact ofBody_of_boundary_error (he.trans hm) hb keepBlank body
  · rw [if_neg fun h => hm (hiff.1 h.1)]
    exact ofBody_congr he (fun h => absurd h hm) keepBlank body

/-- A media type of parts in other letters, and with a blank behind it. -/
theorem ofBody_respelled_in_capitals :
    let body := Bytes.ofString "--b\r\nContent-Disposition: form-data; name=\"a\"\r\n\r\n1\r\n--b--"
    let form : Form := { fields := [⟨"a", some "1"⟩] }
    ofBody "multipart/form-data;boundary=b" false body = .ok form ∧
      ofBody "MultiPart/FORM-data;boundary=b" false body = .ok form ∧
      ofBody "MULTIPART/form-data\u3000;boundary=b" false body =
        .error (.multipart (.boundary .malformed)) := by
  intro body form
  let capitals : ContentType.Respelling :=
    { kind := "multipart/form-data".toList, tail := ";boundary=b".toList
      spelled := "MultiPart/FORM-data".toList, left := [], right := []
      not_mem_kind := by decide, head_tail := by simp, map_spelled := by decide
      isBlank_left := by simp, isBlank_right := by simp }
  let blank : ContentType.Respelling :=
    { kind := "multipart/form-data".toList, tail := ";boundary=b".toList
      spelled := "MULTIPART/form-data".toList, left := [], right := ['\u3000']
      not_mem_kind := by decide, head_tail := by simp, map_spelled := by decide
      isBlank_left := by simp, isBlank_right := List.forall_mem_singleton.2 (by decide) }
  have hbefore : ofBody "multipart/form-data;boundary=b" false body = .ok form := by decide +kernel
  have hcapitals := (ofBody_respelled capitals).2 false body
  rw [if_neg fun h => h.2 ⟨rfl, rfl⟩] at hcapitals
  have hblank := (ofBody_respelled blank).2 false body
  rw [if_pos ⟨by decide +kernel, by decide⟩] at hblank
  exact ⟨hbefore, hcapitals.trans hbefore, hblank⟩

/-- A blank between the media type and its parameters: the content type still announces parts, as
does the one without the blank, but every body is refused. -/
theorem blank_behind_media_type_hides_boundary :
    let body := Bytes.ofString "--b\r\nContent-Disposition: form-data; name=\"a\"\r\n\r\n1\r\n--b--"
    ofBody "multipart/form-data;boundary=b" false body = .ok { fields := [⟨"a", some "1"⟩] } ∧
      ContentType.isMultipart "multipart/form-data ;boundary=b" = true ∧
      ofBody "multipart/form-data ;boundary=b" false body =
        .error (.multipart (.boundary .malformed)) := by
  decide +kernel

end Form

end FormReply
