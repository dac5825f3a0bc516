import FormReply.Program.Options
import FormReply.Reply

/-!
# Runs of the program

A run turns arguments, a settings file, an environment and an input stream into an exit code and
what is written to the two outputs.  It has three steps, so that the input is read no further than
the request asks for, and the time is taken when the answer is known: `Job.prepare` reads the
arguments, the settings and the environment, `Job.answer` answers the request, and `Job.conclude`
writes the outcome.

* `Job.demand`: how much of the input a job will read;
* `run`: the three steps in one.
-/

namespace FormReply

/-- What a run leaves behind. -/
structure Run where
  exitCode : Nat
  /-- What is written to the standard output. -/
  output : Bytes
  /-- What is written to the standard error output. -/
  errors : String
deriving DecidableEq, Repr

/-- The wording of misused arguments. -/
def UsageError.message (e : UsageError) : String :=
  let shown := fun (b : Bytes) => "'" ++ String.ofList (Utf8.decodeLossy b) ++ "'"
  match e with
  | .unexpected argument => "unexpected argument " ++ shown argument ++ " found"
  | .repeated option => "the argument " ++ shown option ++ " cannot be used multiple times"
  | .missingValue option => "a value is required for " ++ shown option ++ " but none was supplied"
  | .needlessValue option => "a value was given for " ++ shown option ++ " but none was expected"

namespace Run

/-- A text with all lines but the first one moved to the right, as they stand below a heading. -/
def indented (s : String) : String :=
  String.ofList (s.toList.flatMap fun c => if c = '\n' then '\n' :: List.replicate 4 ' ' else [c])

/-- The report of an error, with what led to it. -/
def errorReport (message : String) (cause? : Option String) : String :=
  match cause? with
  | none => "Error: " ++ message ++ "\n"
  | some cause => "Error: " ++ message ++ "\n\nCaused by:\n    " ++ indented cause ++ "\n"

/-- The lines of a log, one below the other. -/
def logText (log : List String) : String := String.join (log.map (· ++ "\n"))

/-- How the program is used. -/
def helpText : String :=
  "Usage: echo-cgi [OPTIONS]\n\nOptions:\n" ++
  "      --config <CONFIG>  The configuration file [default: /opt/echo-cgi/etc/echo-cgi.conf]\n" ++
  "      --no-seccomp       Do not install the seccomp sandbox\n" ++
  "      --seccomp-log      Only log denied syscalls instead of killing the process\n" ++
  "  -h, --help             Print help\n"

/-- The run that shows how the program is used. -/
def help : Run := ⟨0, Bytes.ofString helpText, ""⟩

/-- The run that ends at misused arguments. -/
def misuse (e : UsageError) : Run := ⟨2, [], "error: " ++ e.message ++ "\n"⟩

/-- The run that ends at settings that cannot be loaded. -/
def badSettings (e : Settings.LoadError) : Run :=
  ⟨1, [], errorReport "echo-cgi.conf" (some e.message)⟩

/-- The run that ends with a refusal. -/
def refused (log : List String) (e : Refusal) : Run :=
  ⟨1, [], logText log ++ errorReport e.message e.cause?⟩

/-- The run that ends with a reply.  The standard output takes all that is written to it. -/
def ofReply (reply : Reply) : Run :=
  match reply.outcome with
  | .error e => refused reply.log e
  | .ok response =>
    let (_, stdout) := response.writeTo { room := none }
    ⟨0, stdout.taken, logText reply.log⟩

end Run

/-- What the program has to do once its arguments, settings and environment are read. -/
structure Job where
  settings : Settings
  request : Request
deriving DecidableEq, Repr

namespace Job

/-- Reads the arguments, the settings and the environment; `files` tells what is found at a path. -/
def prepare (arguments : List Bytes) (files : Bytes → Settings.File) (env : Environment) :
    Except Run Job :=
  match Invocation.ofArguments arguments with
  | .misuse e => .error (.misuse e)
  | .help => .error .help
  | .run options =>
    let path := options.settingsPath
    match Settings.load (String.ofList (Utf8.decodeLossy path)) (files path) with
    | .error e => .error (.badSettings e)
    | .ok settings =>
      match Request.ofEnvironment env with
      | .error fault => .error (.refused [] (.method fault))
      | .ok request => .ok ⟨settings, request⟩

/-- How much of the input the job reads, if it reads any. -/
def demand (job : Job) : Option Demand :=
  if job.request.method = some Reply.post then
    bodyDemand job.request.contentLength job.settings.bodyLimit
  else none

/-- Answers the request. -/
def answer (job : Job) (input : Input) : Reply := Reply.respond job.settings job.request input

/-- Writes the outcome of a reply that took so many microseconds. -/
def conclude (job : Job) (elapsed : Nat) (reply : Reply) : Run :=
  Run.ofReply (reply.stamp job.settings elapsed)

end Job

/-- A whole run. -/
def run (arguments : List Bytes) (files : Bytes → Settings.File) (env : Environment)
    (elapsed : Nat) (input : Input) : Run :=
  match Job.prepare arguments files env with
  | .error r => r
  | .ok job => job.conclude elapsed (job.answer input)

end FormReply
