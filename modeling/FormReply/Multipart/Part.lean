import FormReply.Form.Basic
import FormReply.Multipart.Header
import FormReply.Multipart.Disposition

/-!
# Parts

A part of a multipart body has a name or none, may carry a file, and has a content.  A named part
is a field of the form.

* `Part.field?`: the field of a part; the content of a file has to be well-formed UTF-8 to be a
  value, any other content is read lossily.
-/

namespace FormReply.Multipart

/-- A part of a multipart body. -/
structure Part where
  name : Option String
  /-- The part carries a file. -/
  isFile : Bool
  /-- The bytes between its headers and the next delimiter. -/
  content : Bytes
deriving DecidableEq, Repr

namespace Part

/-- The part that headers announce for a content. -/
def ofHeaders (headers : List Header) (content : Bytes) : Part :=
  let disposition := Header.get? headers (Bytes.ofString "content-disposition")
  { name := disposition.bind Attribute.name.text?
    isFile := (disposition.bind Attribute.filename.text?).isSome
    content }

/-- The content as a value. -/
def value (p : Part) : Option String :=
  if p.isFile then (Utf8.decode? p.content).map String.ofList
  else some (String.ofList (Utf8.decodeLossy p.content))

/-- The field of a named part. -/
def field? (p : Part) : Option Field := p.name.map fun name => ⟨name, p.value⟩

theorem field?_of_name {p : Part} {name : String} (h : p.name = some name) :
    p.field? = some ⟨name, p.value⟩ := by simp [field?, h]

theorem field?_of_unnamed {p : Part} (h : p.name = none) : p.field? = none := by simp [field?, h]

end Part

end FormReply.Multipart
