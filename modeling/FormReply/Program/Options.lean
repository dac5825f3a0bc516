import FormReply.Bytes

/-!
# Options

The arguments of the program are read from left to right, each option at most once, and the first
fault decides.

* `Invocation.ofArguments`: what the arguments ask for.
-/

namespace FormReply

/-- The options of the program. -/
structure Options where
  /-- The path of the settings file, if it is given. -/
  settingsPath? : Option Bytes := none
  /-- The program runs without a sandbox. -/
  noSandbox : Bool := false
  /-- Denied system calls are logged and do not end the program. -/
  sandboxLog : Bool := false
deriving DecidableEq, Repr

/-- Why the arguments cannot be used. -/
inductive UsageError where
  /-- An argument is none that is known. -/
  | unexpected (argument : Bytes)
  /-- An option is given twice. -/
  | repeated (option : Bytes)
  /-- An option lacks its value. -/
  | missingValue (option : Bytes)
  /-- An option is given a value that it does not take. -/
  | needlessValue (option : Bytes)
deriving DecidableEq, Repr

/-- What the arguments ask for. -/
inductive Invocation where
  /-- To run with options. -/
  | run (o : Options)
  /-- To show how the program is used. -/
  | help
  /-- Nothing that makes sense. -/
  | misuse (e : UsageError)
deriving DecidableEq, Repr

namespace Options

/-- The path of the settings file without another one. -/
def defaultSettingsPath : Bytes := Bytes.ofString "/opt/echo-cgi/etc/echo-cgi.conf"

/-- The path of the settings file. -/
def settingsPath (o : Options) : Bytes := o.settingsPath?.getD defaultSettingsPath

/-- The option for the path of the settings file. -/
def settingsOption : Bytes := Bytes.ofString "--config"

/-- The option to run without a sandbox. -/
def noSandboxOption : Bytes := Bytes.ofString "--no-seccomp"

/-- The option to log denied system calls. -/
def sandboxLogOption : Bytes := Bytes.ofString "--seccomp-log"

/-- The option to show how the program is used. -/
def helpOption : Bytes := Bytes.ofString "--help"

/-- The name of an option, and the value behind a `=`. -/
def cutValue (argument : Bytes) : Bytes × Option Bytes :=
  match argument.dropWhile (· ≠ 0x3D) with
  | [] => (argument, none)
  | _ :: value => (argument.takeWhile (· ≠ 0x3D), some value)

/-- The argument begins like an option. -/
def looksLikeOption (argument : Bytes) : Bool :=
  match argument with
  | 0x2D :: _ :: _ => true
  | _ => false

/-- Sets the path of the settings file. -/
def setSettingsPath (o : Options) (value : Bytes) : Except UsageError Options :=
  if value.isEmpty then .error (.missingValue settingsOption)
  else if o.settingsPath?.isSome then .error (.repeated settingsOption)
  else .ok { o with settingsPath? := some value }

/-- A flag takes no value and is set once. -/
def checkFlag (flag : Bytes) (isSet : Bool) (value : Option Bytes) : Except UsageError Unit :=
  if value.isSome then .error (.needlessValue flag)
  else if isSet then .error (.repeated flag)
  else .ok ()

end Options

open Options in
/-- Reads arguments behind the options that are set. -/
def Invocation.read (o : Options) : List Bytes → Invocation
  | [] => .run o
  | argument :: rest =>
    let (option, value) := cutValue argument
    if argument = [0x2D, 0x2D] then
      match rest with
      | [] => .run o
      | other :: _ => .misuse (.unexpected other)
    else if option = settingsOption then
      match value, rest with
      | some path, rest =>
        match o.setSettingsPath path with
        | .error e => .misuse e
        | .ok o => Invocation.read o rest
      | none, [] => .misuse (.missingValue settingsOption)
      | none, path :: rest =>
        if looksLikeOption path then .misuse (.missingValue settingsOption)
        else
          match o.setSettingsPath path with
          | .error e => .misuse e
          | .ok o => Invocation.read o rest
    else if option = noSandboxOption then
      match checkFlag option o.noSandbox value with
      | .error e => .misuse e
      | .ok () => Invocation.read { o with noSandbox := true } rest
    else if option = sandboxLogOption then
      match checkFlag option o.sandboxLog value with
      | .error e => .misuse e
      | .ok () => Invocation.read { o with sandboxLog := true } rest
    else if option = helpOption then
      if value.isSome then .misuse (.needlessValue option) else .help
    else if argument.take 2 = [0x2D, 0x68] then .help
    else .misuse (.unexpected argument)

/-- What the arguments ask for. -/
def Invocation.ofArguments (arguments : List Bytes) : Invocation := Invocation.read {} arguments

end FormReply
