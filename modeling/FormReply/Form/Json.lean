import FormReply.Form.Basic
import FormReply.Json.Writer

/-!
# Forms as JSON

A form is an object with its fields as members, in order; a field without a value is `null`.
-/

namespace FormReply

/-- The value of a field as JSON. -/
def Field.toJson (x : Field) : Json.Value := x.value.elim .null .str

/-- The form as a JSON object. -/
def Form.toJson (f : Form) : Json.Value := .obj (f.fields.map fun x => (x.name, x.toJson))

/-- The form written as JSON. -/
def Form.write (f : Form) : Bytes := f.toJson.write

end FormReply
