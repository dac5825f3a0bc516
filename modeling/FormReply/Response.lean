import FormReply.Bytes

/-!
# Responses

A response is a status, headers and a body of lines.  It is written in order to a sink, which may
have room for so many bytes and refuses the rest.

* `Response.bytes`: the response as one byte string;
* `Sink.write`: what a sink takes of a byte string.
-/

namespace FormReply

/-- The status of a response. -/
inductive Status where
  | ok
deriving DecidableEq, Repr

/-- The code and the name of a status. -/
def Status.text : Status → String
  | .ok => "200 OK"

/-- A response. -/
structure Response where
  status : Status := .ok
  /-- Names and values of the headers, in order. -/
  headers : List (String × String) := []
  /-- The lines of the body, each with its line feed. -/
  body : Bytes := []
deriving DecidableEq, Repr

/-- A place to write to, and what it has taken. -/
structure Sink where
  /-- How many bytes it still takes, if that is limited. -/
  room : Option Nat
  /-- What it has taken. -/
  taken : Bytes := []
deriving DecidableEq, Repr

namespace Sink

/-- Writes a byte string, and tells whether all of it was taken.  What does not fit is refused. -/
def write (s : Sink) (b : Bytes) : Bool × Sink :=
  match s.room with
  | none => (true, { s with taken := s.taken ++ b })
  | some n => (decide (b.length ≤ n), ⟨some (n - b.length), s.taken ++ b.take n⟩)

/-- Writes byte strings one after another, up to the first that is not taken as a whole. -/
def writeAll (s : Sink) : List Bytes → Bool × Sink
  | [] => (true, s)
  | b :: rest =>
    match s.write b with
    | (true, s) => s.writeAll rest
    | (false, s) => (false, s)

end Sink

namespace Response

/-- Adds a header. -/
def addHeader (r : Response) (name value : String) : Response :=
  { r with headers := r.headers ++ [(name, value)] }

/-- Adds a line to the body. -/
def addLine (r : Response) (line : Bytes) : Response :=
  { r with body := r.body ++ line ++ [10] }

/-- The line of a header. -/
def headerLine (h : String × String) : Bytes := Bytes.ofString (h.1 ++ ": " ++ h.2 ++ "\n")

/-- The status line. -/
def statusLine (r : Response) : Bytes := Bytes.ofString ("HTTP/1.1 " ++ r.status.text ++ "\n")

/-- The byte strings that are written one after another: the status line, the header lines, an
empty line and the body. -/
def chunks (r : Response) : List Bytes :=
  r.statusLine :: r.headers.map headerLine ++ [[10], r.body]

/-- The response as one byte string. -/
def bytes (r : Response) : Bytes := r.chunks.flatten

/-- Writes the response, and tells whether all of it was taken. -/
def writeTo (r : Response) (s : Sink) : Bool × Sink := s.writeAll r.chunks

@[simp] theorem headers_addHeader (r : Response) (name value : String) :
    (r.addHeader name value).headers = r.headers ++ [(name, value)] := rfl

@[simp] theorem body_addHeader (r : Response) (name value : String) :
    (r.addHeader name value).body = r.body := rfl

@[simp] theorem body_addLine (r : Response) (line : Bytes) :
    (r.addLine line).body = r.body ++ line ++ [10] := rfl

/-- The parts of a response in the order in which they are written. -/
theorem bytes_eq (r : Response) :
    r.bytes = r.statusLine ++ (r.headers.map headerLine).flatten ++ [10] ++ r.body := by
  simp [bytes, chunks]

end Response

example : ((Response.addLine {} [0x61]).writeTo ⟨some 17, []⟩).2.taken =
    Bytes.ofString "HTTP/1.1 200 OK\n\n" := by decide

end FormReply
