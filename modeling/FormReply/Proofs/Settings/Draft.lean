import FormReply.Proofs.Outcomes
import FormReply.Proofs.Settings.Spelling
import FormReply.Proofs.Text.Numeral
import FormReply.Settings.Basic

/-!
# What settings texts mean

The lines of a settings text can be taken one after another into a draft, which knows whether the
next lines belong to the settings and what the values of the keys are so far.  The settings of a
text are those of its draft, however the lines are spelled.

* `Draft.add`: what a line does to a draft;
* `Draft.tells_foldl`: a draft tells what the last assignments say;
* `Draft.Gives`, `Draft.check_eq_ok_iff`: the settings that a draft gives;
* `parse_of_spelling`: **the settings of a text** are those of its draft.
-/

namespace FormReply.Settings

/-- The keys of the settings. -/
inductive Key where
  | maxBodyLength
  | keepBlankValues
  | includeQuery
  | debug
deriving DecidableEq, Repr

/-- How a key is written. -/
def Key.text : Key → String
  | .maxBodyLength => "max-body-len"
  | .keepBlankValues => "keep-blank-values"
  | .includeQuery => "post-include-query"
  | .debug => "debug"

/-- What lines of a text tell about the settings. -/
structure Draft where
  /-- The next lines belong to the settings. -/
  isOpen : Bool := false
  /-- The values of the keys that have one. -/
  values : Key → Option String := fun _ => none

namespace Draft

/-- Takes a line into account: a heading says whether the next lines belong to the settings, and an
assignment that does replaces the value of its key, or removes it. -/
def add (d : Draft) (line : Ini.Line) : Draft :=
  match line with
  | .blank => d
  | .heading name => { d with isOpen := name = heading }
  | .assignment key value =>
    if d.isOpen then { d with values := fun k => if k.text = key then value else d.values k } else d

/-- The draft of lines. -/
def ofLines (lines : List Ini.Line) : Draft := lines.foldl add {}

/-- The settings of a draft, or the first key whose value does not fit. -/
def check (d : Draft) : Except SettingsError Settings := do
  let flag := fun (key : Key) default => readFlag key.text default (d.values key)
  let defaults : Settings := {}
  let maxBodyLength ← readLength (d.values .maxBodyLength)
  let keepBlankValues ← flag .keepBlankValues defaults.keepBlankValues
  let includeQuery ← flag .includeQuery defaults.includeQuery
  let debug ← flag .debug defaults.debug
  return { maxBodyLength, keepBlankValues, includeQuery, debug }

/-! ### Lines -/

/-- A draft tells what the assignments collected so far say. -/
structure Tells (d : Draft) (c : Ini.Collected) : Prop where
  isOpen_iff : d.isOpen = true ↔ c.heading = heading
  values_eq : ∀ key : Key, d.values key = Ini.lookup c.found.reverse heading key.text

/-- A line keeps a draft in step with the assignments. -/
theorem Tells.add {d : Draft} {c : Ini.Collected} (h : d.Tells c) (line : Ini.Line) :
    (d.add line).Tells (c.add line) := by
  cases line with
  | blank => exact h
  | heading name =>
    refine ⟨?_, h.values_eq⟩
    rw [Draft.add, Ini.Collected.add]
    exact decide_eq_true_iff
  | assignment key value =>
    have hfound : (c.add (.assignment key value)).found.reverse =
        c.found.reverse ++ [⟨c.heading, key, value⟩] := List.reverse_cons
    by_cases hopen : d.isOpen = true
    · have hadd : d.add (.assignment key value) =
          { d with values := fun k => if k.text = key then value else d.values k } := if_pos hopen
      rw [hadd]
      refine ⟨h.isOpen_iff, fun k => ?_⟩
      rw [hfound]
      by_cases hkey : k.text = key
      · rw [h.isOpen_iff.1 hopen, hkey, Ini.lookup_append_self]
        exact if_pos hkey
      · rw [Ini.lookup_append_of_ne _ fun he => hkey he.2.symm, ← h.values_eq k]
        exact if_neg hkey
    · have hadd : d.add (.assignment key value) = d := if_neg hopen
      rw [hadd]
      refine ⟨h.isOpen_iff, fun k => ?_⟩
      rw [hfound, Ini.lookup_append_of_ne _ fun he => hopen (h.isOpen_iff.2 he.1)]
      exact h.values_eq k

theorem tells_foldl {d : Draft} {c : Ini.Collected} (h : d.Tells c) (lines : List Ini.Line) :
    (lines.foldl Draft.add d).Tells (lines.foldl Ini.Collected.add c) := by
  induction lines generalizing d c with
  | nil => exact h
  | cons line lines ih => exact ih (h.add line)

/-- **A draft tells what the last assignments say.** -/
theorem values_ofLines (lines : List Ini.Line) (key : Key) :
    (ofLines lines).values key = Ini.lookup (Ini.collect lines) heading key.text := by
  have hstart : Tells {} {} := ⟨by decide, fun _ => rfl⟩
  exact (tells_foldl hstart lines).values_eq key

/-! ### Values -/

/-- The value gives a length: without one there is no limit, and otherwise it is a numeral. -/
inductive GivesLength : Option String → Nat → Prop where
  /-- There is no value. -/
  | unset : GivesLength none 0
  /-- The value is a numeral of 32 bits. -/
  | numeral {text : String} {n : Nat} (h : Numeral.Spells n text.toList) (hn : n ≤ maxU32) :
    GivesLength (some text) n

/-- The value gives a truth value, in any case of letters; without one the default counts. -/
inductive GivesFlag (default : Bool) : Option String → Bool → Prop where
  /-- There is no value. -/
  | unset : GivesFlag default none default
  /-- The value is `true`. -/
  | isTrue {text : String} (h : text.map Char.toLower = "true") : GivesFlag default (some text) true
  /-- The value is `false`. -/
  | isFalse {text : String} (h : text.map Char.toLower = "false") :
    GivesFlag default (some text) false

theorem readLength_eq_ok_iff {value : Option String} {n : Nat} :
    readLength value = .ok n ↔ GivesLength value n := by
  cases value with
  | none =>
    constructor
    · intro h
      obtain rfl : 0 = n := Except.ok.inj h
      exact .unset
    · rintro ⟨⟩
      rfl
  | some text =>
    have hread : readLength (some text) = .ok n ↔
        Numeral.read maxU64 text.toList = .ok n ∧ n ≤ maxU32 := by
      rw [readLength]
      cases Numeral.read maxU64 text.toList with
      | error e => simp
      | ok m =>
        by_cases hle : m ≤ maxU32
        · simp only [hle, if_true, Except.ok.injEq]
          exact ⟨fun h => ⟨h, h ▸ hle⟩, And.left⟩
        · simp only [hle, if_false, reduceCtorEq, Except.ok.injEq, false_iff, not_and]
          exact fun h => h ▸ hle
    rw [hread, Numeral.read_eq_ok_iff]
    constructor
    · rintro ⟨⟨h, -⟩, hn⟩
      exact .numeral h hn
    · intro h
      cases h with
      | numeral h hn => exact ⟨⟨h, Nat.le_trans hn (by decide)⟩, hn⟩

theorem readFlag_eq_ok_iff {key : String} {default b : Bool} {value : Option String} :
    readFlag key default value = .ok b ↔ GivesFlag default value b := by
  cases value with
  | none =>
    constructor
    · intro h
      obtain rfl : default = b := Except.ok.inj h
      exact .unset
    · rintro ⟨⟩
      rfl
  | some text =>
    unfold readFlag
    constructor
    · intro h
      dsimp only at h
      split at h
      · next ht =>
        obtain rfl : true = b := Except.ok.inj h
        exact .isTrue ht
      · split at h
        · next hf =>
          obtain rfl : false = b := Except.ok.inj h
          exact .isFalse hf
        · exact nomatch h
    · rintro (_ | h | h)
      · exact if_pos h
      · have hne : ¬ text.map Char.toLower = "true" := by
          rw [h]
          decide
        exact (if_neg hne).trans (if_pos h)

/-- The settings that a draft gives. -/
structure Gives (d : Draft) (settings : Settings) : Prop where
  maxBodyLength : GivesLength (d.values .maxBodyLength) settings.maxBodyLength
  keepBlankValues : GivesFlag false (d.values .keepBlankValues) settings.keepBlankValues
  includeQuery : GivesFlag true (d.values .includeQuery) settings.includeQuery
  debug : GivesFlag false (d.values .debug) settings.debug

/-- Checking a draft finds the settings that it gives. -/
theorem check_eq_ok_iff {d : Draft} {settings : Settings} :
    d.check = .ok settings ↔ d.Gives settings := by
  simp only [check, bind_eq_ok_iff, readLength_eq_ok_iff, readFlag_eq_ok_iff]
  constructor
  · rintro ⟨_, hlength, _, hkeep, _, hquery, _, hdebug, h⟩
    obtain rfl := Except.ok.inj h
    exact ⟨hlength, hkeep, hquery, hdebug⟩
  · rintro ⟨hlength, hkeep, hquery, hdebug⟩
    exact ⟨_, hlength, _, hkeep, _, hquery, _, hdebug, rfl⟩

/-- The values of a draft fit: the length is a numeral, and the others are truth values. -/
structure IsValid (d : Draft) : Prop where
  length : ∀ value ∈ d.values .maxBodyLength, ∃ n ≤ maxU32, Numeral.Spells n value.toList
  flag : ∀ key, key ≠ .maxBodyLength → ∀ value ∈ d.values key,
    value.map Char.toLower = "true" ∨ value.map Char.toLower = "false"

theorem exists_givesLength_iff {value : Option String} : (∃ n, GivesLength value n) ↔
    ∀ text ∈ value, ∃ n ≤ maxU32, Numeral.Spells n text.toList := by
  cases value with
  | none => exact ⟨fun _ => by simp, fun _ => ⟨0, .unset⟩⟩
  | some text =>
    constructor
    · rintro ⟨n, h⟩ text' ht
      obtain rfl := Option.some.inj ht
      cases h with
      | numeral h hn => exact ⟨n, hn, h⟩
    · intro h
      obtain ⟨n, hn, h⟩ := h text rfl
      exact ⟨n, .numeral h hn⟩

theorem exists_givesFlag_iff {default : Bool} {value : Option String} :
    (∃ b, GivesFlag default value b) ↔
      ∀ text ∈ value, text.map Char.toLower = "true" ∨ text.map Char.toLower = "false" := by
  cases value with
  | none => exact ⟨fun _ => by simp, fun _ => ⟨default, .unset⟩⟩
  | some text =>
    constructor
    · rintro ⟨b, h⟩ text' ht
      obtain rfl := Option.some.inj ht
      cases h with
      | isTrue h => exact Or.inl h
      | isFalse h => exact Or.inr h
    · intro h
      rcases h text rfl with h | h
      · exact ⟨true, .isTrue h⟩
      · exact ⟨false, .isFalse h⟩

theorem exists_gives_iff {d : Draft} : (∃ settings, d.Gives settings) ↔ d.IsValid := by
  constructor
  · rintro ⟨settings, h⟩
    refine ⟨exists_givesLength_iff.1 ⟨_, h.maxBodyLength⟩, fun key hkey => ?_⟩
    cases key with
    | maxBodyLength => exact absurd rfl hkey
    | keepBlankValues => exact exists_givesFlag_iff.1 ⟨_, h.keepBlankValues⟩
    | includeQuery => exact exists_givesFlag_iff.1 ⟨_, h.includeQuery⟩
    | debug => exact exists_givesFlag_iff.1 ⟨_, h.debug⟩
  · rintro ⟨hlength, hflag⟩
    obtain ⟨n, hn⟩ := exists_givesLength_iff.2 hlength
    obtain ⟨keep, hkeep⟩ := exists_givesFlag_iff.2 (hflag .keepBlankValues (by decide))
    obtain ⟨query, hquery⟩ := exists_givesFlag_iff.2 (hflag .includeQuery (by decide))
    obtain ⟨debug, hdebug⟩ := exists_givesFlag_iff.2 (hflag .debug (by decide))
    exact ⟨⟨n, keep, query, debug⟩, hn, hkeep, hquery, hdebug⟩

end Draft

/-! ### Texts -/

/-- The settings of assignments are those of a draft with their values. -/
theorem ofEntries_collect (lines : List Ini.Line) :
    ofEntries (Ini.collect lines) = (Draft.ofLines lines).check := by
  have hvalues : (Draft.ofLines lines).values =
      fun key => Ini.lookup (Ini.collect lines) heading key.text :=
    funext (Draft.values_ofLines lines)
  rw [Draft.check, hvalues]
  rfl

/-- **The settings of a text.**  However its lines are spelled, a text is read into the draft of its
lines, which then is checked.  It gives settings exactly if every value in the draft fits, and these
are the settings that the draft gives. -/
theorem parse_of_spelling {lines : List Ini.Line} {text : List Char}
    (h : Ini.SpellsText lines text) :
    parse (String.ofList text) = (Draft.ofLines lines).check ∧
      (∀ settings, parse (String.ofList text) = .ok settings ↔
        (Draft.ofLines lines).Gives settings) ∧
      ((∃ settings, parse (String.ofList text) = .ok settings) ↔
        (Draft.ofLines lines).IsValid) := by
  have hparse : parse (String.ofList text) = (Draft.ofLines lines).check := by
    rw [parse, Ini.entries_of_spellsText h]
    exact ofEntries_collect lines
  rw [hparse]
  simp only [Draft.check_eq_ok_iff, Draft.exists_gives_iff, implies_true, and_self]

/-- A text with a section of its own, a section that is opened twice, a key that is unset, and all
kinds of blanks, delimiters, comments and line ends. -/
theorem parse_of_spelling_with_reopened_section :
    let text := "[x]\ndebug = maybe\n\u00A0[ ECHO-CGI\t] ; ]\x0d\nmax-body-len=9\n# =\n" ++
      "debug\t: no\n[ECHO-CGI]\ndebug\x0d\nmax-body-len : +0100\npost-include-query=FALSE"
    let lines : List Ini.Line := [.heading "x", .assignment "debug" (some "maybe"),
      .heading "ECHO-CGI", .assignment "max-body-len" (some "9"), .blank,
      .assignment "debug" (some "no"), .heading "ECHO-CGI", .assignment "debug" none,
      .assignment "max-body-len" (some "+0100"), .assignment "post-include-query" (some "FALSE")]
    Ini.SpellsText lines text.toList ∧
      parse (String.ofList text.toList) = .ok ⟨100, false, false, false⟩ ∧
      parse (String.ofList text.toList) = (Draft.ofLines lines).check ∧
      (∀ settings, parse (String.ofList text.toList) = .ok settings ↔
        (Draft.ofLines lines).Gives settings) ∧
      ((∃ settings, parse (String.ofList text.toList) = .ok settings) ↔
        (Draft.ofLines lines).IsValid) := by
  intro text lines
  have hnil : Ini.IsPadding [] := by decide
  have hspace : Ini.IsPadding [' '] := by decide
  have hdebug : Ini.IsToken "debug".toList := by decide
  have hlength : Ini.IsToken "max-body-len".toList := by decide
  have hquery : Ini.IsToken "post-include-query".toList := by decide
  have hsection : Ini.IsToken "ECHO-CGI".toList := by decide
  have hother := @Ini.SpellsLine.heading [] [] ['x'] [] [] hnil hnil (by decide) (by decide) hnil
    hnil
  have hforeign := @Ini.SpellsLine.assignment [] _ [' '] [' '] "maybe".toList [] '=' hnil hdebug
    (by decide) hspace (by decide) hspace (by decide) hnil
  have hopened := @Ini.SpellsLine.comment _ _ " ]\x0d".toList ';'
    (@Ini.SpellsLine.heading ['\u00A0'] [' '] _ ['\t'] [' '] (by decide) hspace hsection (by decide)
      (by decide) hspace) (by decide) (by decide)
  have hoverridden := @Ini.SpellsLine.assignment [] _ [] [] ['9'] [] '=' hnil hlength (by decide)
    hnil (by decide) hnil (by decide) hnil
  have hblank := @Ini.SpellsLine.comment _ _ " =".toList '#' (.blank hnil) (by decide) (by decide)
  have hunfit := @Ini.SpellsLine.assignment [] _ ['\t'] [' '] "no".toList [] ':' hnil hdebug
    (by decide) (by decide) (by decide) hspace (by decide) hnil
  have hreopened := @Ini.SpellsLine.heading [] [] _ [] [] hnil hnil hsection (by decide) hnil hnil
  have hunset := @Ini.SpellsLine.bareKey [] _ ['\x0d'] hnil hdebug (by decide) (by decide)
  have hlast := @Ini.SpellsLine.assignment [] _ [' '] [' '] "+0100".toList [] ':' hnil hlength
    (by decide) hspace (by decide) hspace (by decide) hnil
  have hfalse := @Ini.SpellsLine.assignment [] _ [] [] "FALSE".toList [] '=' hnil hquery (by decide)
    hnil (by decide) hnil (by decide) hnil
  obtain ⟨spelled, hspelled, htext⟩ :
      ∃ spelled, spelled = text.toList ∧ Ini.SpellsText lines spelled :=
    ⟨_, by decide +kernel, .cons hother <| .cons hforeign <| .cons hopened <| .cons hoverridden <|
      .cons hblank <| .cons hunfit <| .cons hreopened <| .cons hunset <| .cons hlast <|
      .last hfalse⟩
  rw [hspelled] at htext
  exact ⟨htext, by decide +kernel, parse_of_spelling htext⟩

end FormReply.Settings
