import FormReply.Settings.Ini
import FormReply.Text.Numeral
import FormReply.Text.Utf8

/-!
# Settings

The settings of the program, with their defaults, and how they are read from a text and from a
file.

* `Settings.parse`: the settings of a text;
* `Settings.load`: the settings of a file, which need not exist.
-/

namespace FormReply

/-- The settings of the program. -/
structure Settings where
  /-- The greatest length of a body in bytes; zero stands for no limit. -/
  maxBodyLength : Nat := 0
  /-- Fields with an empty value are kept in URL-encoded data. -/
  keepBlankValues : Bool := false
  /-- The fields of the query string are added to those of a body. -/
  includeQuery : Bool := true
  /-- Requests are logged and the answer tells how long it took. -/
  debug : Bool := false
deriving DecidableEq, Repr

/-- Why a text holds no settings. -/
inductive SettingsError where
  | line (fault : Ini.Fault)
  | bodyLength (e : NumeralError)
  | bodyLengthTooBig
  /-- A flag is neither true nor false. -/
  | flag (key : String)
deriving DecidableEq, Repr

/-- The wording of the fault. -/
def SettingsError.message : SettingsError → String
  | .line fault => "Failed to parse configuration: " ++ fault.message
  | .bodyLength e => "Configuration 'max-body-len': " ++ e.message
  | .bodyLengthTooBig => "Configuration 'max-body-len' is too big."
  | .flag key =>
    "Configuration '" ++ key ++ "': provided string was not `true` or `false`"

namespace Settings

/-- The greatest number of 32 bits. -/
def maxU32 : Nat := 0xFFFFFFFF

/-- The greatest number of 64 bits. -/
def maxU64 : Nat := 0xFFFFFFFFFFFFFFFF

/-- The heading of the settings. -/
def heading : String := "ECHO-CGI"

/-- The limit for the length of a body. -/
def bodyLimit (s : Settings) : Option Nat :=
  if s.maxBodyLength = 0 then none else some s.maxBodyLength

/-- The length that a value gives, or the default. -/
def readLength (value : Option String) : Except SettingsError Nat :=
  match value with
  | none => .ok ({} : Settings).maxBodyLength
  | some text =>
    match Numeral.read maxU64 text.toList with
    | .error e => .error (.bodyLength e)
    | .ok n => if n ≤ maxU32 then .ok n else .error .bodyLengthTooBig

/-- The truth value that a value gives, in any case of letters, or the default. -/
def readFlag (key : String) (default : Bool) (value : Option String) : Except SettingsError Bool :=
  match value with
  | none => .ok default
  | some text =>
    if text.map Char.toLower = "true" then .ok true
    else if text.map Char.toLower = "false" then .ok false
    else .error (.flag key)

/-- The settings that assignments give. -/
def ofEntries (l : List Ini.Entry) : Except SettingsError Settings := do
  let flag := fun key default => readFlag key default (Ini.lookup l heading key)
  let defaults : Settings := {}
  let maxBodyLength ← readLength (Ini.lookup l heading "max-body-len")
  let keepBlankValues ← flag "keep-blank-values" defaults.keepBlankValues
  let includeQuery ← flag "post-include-query" defaults.includeQuery
  let debug ← flag "debug" defaults.debug
  return { maxBodyLength, keepBlankValues, includeQuery, debug }

/-- The settings of a text. -/
def parse (text : String) : Except SettingsError Settings :=
  match Ini.entries text with
  | .error fault => .error (.line fault)
  | .ok l => ofEntries l

theorem bodyLimit_eq_none_iff {s : Settings} : s.bodyLimit = none ↔ s.maxBodyLength = 0 := by
  simp [bodyLimit]

theorem bodyLimit_eq_some_iff {s : Settings} {n : Nat} :
    s.bodyLimit = some n ↔ s.maxBodyLength = n ∧ 0 < n := by
  simp only [bodyLimit, Option.ite_none_left_eq_some, Option.some.injEq]
  omega

/-! ### Files -/

/-- What is found at the path of a file. -/
inductive File where
  | missing
  | directory
  /-- Something that cannot be read, for some reason. -/
  | unreadable (reason : String)
  /-- A file with these bytes. -/
  | content (b : Bytes)
deriving DecidableEq, Repr

/-- Why settings cannot be loaded from a path. -/
inductive LoadError where
  /-- What the path leads to cannot be read. -/
  | unreadable (path reason : String)
  | notText (path : String)
  | settings (e : SettingsError)
deriving DecidableEq, Repr

/-- The wording of the fault. -/
def LoadError.message : LoadError → String
  | .unreadable path reason => "Failed to load configuration " ++ path ++ ": " ++ reason
  | .notText path =>
    "Failed to load configuration " ++ path ++ ": stream did not contain valid UTF-8"
  | .settings e => e.message

/-- Why a directory cannot be read. -/
def directoryReason : String := "Is a directory (os error 21)"

/-- The settings of a file; without a file, the defaults. -/
def load (path : String) (file : File) : Except LoadError Settings :=
  match file with
  | .missing => .ok {}
  | .directory => .error (.unreadable path directoryReason)
  | .unreadable reason => .error (.unreadable path reason)
  | .content b =>
    match Utf8.decode? b with
    | none => .error (.notText path)
    | some text => (parse (String.ofList text)).mapError .settings

end Settings

end FormReply
