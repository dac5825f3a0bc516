import FormReply.Environment
import FormReply.Settings.Basic

/-!
# Requests

A request is described by variables of the environment.  Only the method is checked; everything
else is read lossily and has a default.

* `Request.ofEnvironment`: the request of an environment;
* `Request.readLength?`: the length that a text announces.
-/

namespace FormReply

/-- What is wrong with the method of a request. -/
inductive MethodFault where
  /-- It has too many bytes. -/
  | tooLong
  /-- Its bytes are not well-formed. -/
  | notText
deriving DecidableEq, Repr

/-- The wording of the fault. -/
def MethodFault.message : MethodFault → String
  | .tooLong => "is too long"
  | .notText => "is not valid UTF-8"

/-- What a request says of itself. -/
structure Request where
  /-- The method, if there is one. -/
  method : Option String := none
  /-- The content type of the body; empty without one. -/
  contentType : String := ""
  /-- The announced length of the body, if it is usable. -/
  contentLength : Option Nat := none
  /-- The query string; empty without one. -/
  query : String := ""
deriving DecidableEq, Repr

namespace Request

/-- The variable that holds the method. -/
def methodVariable : String := "REQUEST_METHOD"

/-- The greatest length of a method in bytes. -/
def maxMethodLength : Nat := 4096

/-- The greatest length of an announced length in bytes. -/
def maxLengthDigits : Nat := 10

/-- The length that a text announces: a numeral of at most ten bytes and 32 bits, with blanks
around it. -/
def readLength? (text : String) : Option Nat :=
  let numeral := Text.trimString text
  if maxLengthDigits < numeral.utf8ByteSize then none
  else (Numeral.read Settings.maxU32 numeral.toList).toOption

/-- The method that bytes spell. -/
def readMethod (b : Bytes) : Except MethodFault String :=
  if maxMethodLength < b.length then .error .tooLong
  else
    match Utf8.decode? b with
    | none => .error .notText
    | some text => .ok (String.ofList text)

/-- The lossily read value of a variable, empty if it is not set. -/
def readLossy (env : Environment) (name : String) : String :=
  String.ofList (Utf8.decodeLossy ((env name).getD []))

/-- The request that an environment describes. -/
def ofEnvironment (env : Environment) : Except MethodFault Request :=
  let rest : Request :=
    { contentType := readLossy env "CONTENT_TYPE"
      contentLength := readLength? (readLossy env "CONTENT_LENGTH")
      query := readLossy env "QUERY_STRING" }
  match env methodVariable with
  | none => .ok rest
  | some b => (readMethod b).map fun method => { rest with method := some method }

end Request

end FormReply
