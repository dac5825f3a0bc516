import FormReply.Proofs.Text.Utf8
import FormReply.Settings.Basic

/-!
# Settings files

Settings are loaded from a file that does not exist, which stands for the defaults, and from a file
that holds the text of settings.

* `Loads`, `load_eq_ok_iff`: **the files that settings are loaded from**.
-/

namespace FormReply.Settings

/-- What is found at a path gives settings. -/
inductive Loads : File → Settings → Prop where
  /-- Without a file, the defaults count. -/
  | missing : Loads .missing {}
  /-- The file holds a text of settings. -/
  | content {text : String} {settings : Settings} (h : parse text = .ok settings) :
    Loads (.content (Bytes.ofString text)) settings

/-- The settings, if there are any, are without `debug`. -/
def IsQuiet (file : File) : Prop := ∀ settings, Loads file settings → settings.debug = false

/-- **The files that settings are loaded from**, wherever they are. -/
theorem load_eq_ok_iff {path : String} {file : File} {settings : Settings} :
    load path file = .ok settings ↔ Loads file settings := by
  constructor
  · intro h
    cases file with
    | missing =>
      obtain rfl := Except.ok.inj h
      exact .missing
    | directory => simp [load] at h
    | unreadable reason => simp [load] at h
    | content b =>
      rw [load] at h
      cases hd : Utf8.decode? b with
      | none => simp [hd] at h
      | some text =>
        simp only [hd] at h
        cases hp : parse (String.ofList text) with
        | error e =>
          rw [hp] at h
          exact nomatch h
        | ok loaded =>
          rw [hp] at h
          obtain rfl : loaded = settings := Except.ok.inj h
          rw [Utf8.eq_ofString_of_decode? hd]
          exact .content hp
  · intro h
    cases h with
    | missing => rfl
    | @content text _ h =>
      rw [load, Utf8.ofString_eq_encode, Utf8.decode?_encode]
      simp only [String.ofList_toList, h]
      rfl

/-- A file that is not loaded from has a fault. -/
theorem exists_loads_or_error (path : String) (file : File) :
    (∃ settings, Loads file settings) ∨ ∃ e, load path file = .error e := by
  cases h : load path file with
  | ok settings => exact Or.inl ⟨settings, load_eq_ok_iff.1 h⟩
  | error e => exact Or.inr ⟨e, rfl⟩

theorem Loads.ne_error {path : String} {file : File} {settings : Settings}
    (h : Loads file settings) (e : LoadError) : load path file ≠ .error e := by
  rw [load_eq_ok_iff.2 h]
  simp

theorem Loads.unique {file : File} {settings settings' : Settings} (h : Loads file settings)
    (h' : Loads file settings') : settings = settings' := by
  have hload : load "" file = .ok settings := load_eq_ok_iff.2 h
  rw [load_eq_ok_iff.2 h', Except.ok.injEq] at hload
  exact hload.symm

end FormReply.Settings
