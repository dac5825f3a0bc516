import FormReply.Multipart.Stream

/-!
# Writing multipart streams

A stream is written part by part: a delimiter line, the disposition, an empty line, the content and
a line end.  A name and a file's name stand between quotes, with a backslash before every quote.

* `write`: the stream of parts, with a closing delimiter.
-/

namespace FormReply.Multipart

/-- A part to be sent. -/
structure Outgoing where
  name : Option String
  filename : Option String
  content : Bytes
deriving DecidableEq, Repr

/-- The text with a backslash before every quote. -/
def escapeQuotes (text : List Char) : List Char :=
  text.flatMap fun c => if c = '"' then ['\\', '"'] else [c]

/-- An attribute of a disposition, with the `;` before it; nothing without a value. -/
def writeAttribute (a : Attribute) (value : Option String) : Bytes :=
  match value with
  | none => []
  | some s =>
    Bytes.ofString "; " ++ a.key ++ Bytes.ofString "=\"" ++ Utf8.encode (escapeQuotes s.toList) ++
      [0x22]

namespace Outgoing

/-- The header of a part, with its line end. -/
def header (p : Outgoing) : Bytes :=
  Bytes.ofString "Content-Disposition: form-data" ++ writeAttribute .name p.name ++
    writeAttribute .filename p.filename ++ Bytes.crlf

/-- A part with the delimiter before it. -/
def write (boundary : Bytes) (p : Outgoing) : Bytes :=
  dashBoundary boundary ++ Bytes.crlf ++ p.header ++ Bytes.crlf ++ p.content ++ Bytes.crlf

end Outgoing

/-- The stream of parts. -/
def write (boundary : Bytes) (ps : List Outgoing) : Bytes :=
  ps.flatMap (Outgoing.write boundary) ++ dashBoundary boundary ++ [0x2D, 0x2D]

end FormReply.Multipart
