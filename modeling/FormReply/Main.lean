import FormReply.Program.Run

/-!
# The command line

Supplies a run with the arguments, the settings file, the environment and the standard input of the
process, and passes on what the run leaves behind.
-/

namespace FormReply.CommandLine

/-- The code of the system for reading a directory. -/
def directoryCode : UInt32 := 21

/-- What is found at a path. -/
def readSettingsFile (path : String) : IO Settings.File := do
  try
    return .content (← IO.FS.readBinFile path).data.toList
  catch
    | .noFileOrDirectory .. => return .missing
    | .inappropriateType _ code _ => return if code = directoryCode then .directory else .missing
    | e => return .unreadable (toString e)

/-- The environment of the process. -/
def readEnvironment : IO Environment := do
  return Environment.ofBlock (← IO.FS.readBinFile "/proc/self/environ").data.toList

/-- The greatest number of bytes that are read at once. -/
def blockLength : Nat := 65536

/-- Reads at most `room` bytes, or up to the end without a limit, behind those in `found`. -/
partial def readBytes (stream : IO.FS.Stream) (room : Option Nat) (found : ByteArray) :
    IO (ByteArray × Ending) := do
  let wanted := match room with
    | none => blockLength
    | some n => min n blockLength
  if wanted = 0 then return (found, .done)
  let block ← try
      pure (Except.ok (← stream.read wanted.toUSize))
    catch e => pure (Except.error (toString e))
  match block with
  | .error reason => return (found, .failure reason)
  | .ok b =>
    if b.isEmpty then return (found, .done)
    readBytes stream (room.map (· - b.size)) (found ++ b)

/-- Reads as much of the standard input as a job will ask for. -/
def readInput (demand : Option Demand) : IO Input := do
  let room := match demand with
    | none => some 0
    | some (.upTo n) => some n
    | some .all => none
  let (b, ending) ← readBytes (← IO.getStdin) room ByteArray.empty
  return { pending := b.data.toList, ending }

/-- The run of the process. -/
def runProcess (arguments : List String) : IO Run := do
  let paths := arguments.map Bytes.ofString
  let path := match Invocation.ofArguments paths with
    | .run options => options.settingsPath
    | _ => []
  let file ← readSettingsFile (String.ofList (Utf8.decodeLossy path))
  match Job.prepare paths (fun _ => file) (← readEnvironment) with
  | .error r => return r
  | .ok job =>
    let started ← IO.monoNanosNow
    let reply := job.answer (← readInput job.demand)
    let finished ← IO.monoNanosNow
    return job.conclude ((finished - started) / 1000) reply

end FormReply.CommandLine

/-- Answers the request that the environment describes. -/
def main (arguments : List String) : IO UInt32 := do
  let r ← FormReply.CommandLine.runProcess arguments
  (← IO.getStderr).putStr r.errors
  try
    let stdout ← IO.getStdout
    stdout.write (FormReply.Bytes.toByteArray r.output)
    stdout.flush
    return r.exitCode.toUInt32
  catch e =>
    (← IO.getStderr).putStr
      (FormReply.Run.errorReport "CGI stdout write failed" (some (toString e)))
    return 1
