import FormReply.ContentType
import FormReply.Form.UrlEncoded
import FormReply.Multipart.Stream

/-!
# Form bodies

A body holds a form in the encoding that its content type announces.

* `Form.fieldsOfBody`: the fields in the order of the body, repeated names included;
* `Form.ofBody`: the form, which keeps the first field of each name.
-/

namespace FormReply

/-- Why a body of parts cannot be read. -/
inductive MultipartError where
  | boundary (e : ContentType.BoundaryError)
  | stream (e : Multipart.StreamError)
deriving DecidableEq, Repr

/-- The wording of the fault. -/
def MultipartError.message : MultipartError → String
  | .boundary e => e.message
  | .stream e => e.message

/-- Why a body holds no form. -/
inductive FormError where
  /-- The content type announces something else. -/
  | unsupportedContentType (essence : String)
  | multipart (e : MultipartError)
deriving DecidableEq, Repr

/-- The wording of the fault. -/
def FormError.message : FormError → String
  | .unsupportedContentType essence => "Unsupported form content type: '" ++ essence ++ "'"
  | .multipart e => "Multipart form decoding failed: " ++ e.message

/-- The parts of a body with a content type. -/
def Multipart.partsOfBody (contentType : String) (body : Bytes) :
    Except MultipartError (List Part) :=
  match ContentType.boundary contentType with
  | .error e => .error (.boundary e)
  | .ok boundary =>
    match parts (Bytes.ofString boundary) body with
    | .error e => .error (.stream e)
    | .ok ps => .ok ps

/-- The fields of a body, in order, repeated names included. -/
def Form.fieldsOfBody (contentType : String) (keepBlank : Bool) (body : Bytes) :
    Except FormError (List Field) :=
  match ContentType.encoding contentType with
  | .urlEncoded => .ok (UrlEncoded.fields keepBlank (Utf8.decodeLossy body))
  | .multipart =>
    match Multipart.partsOfBody contentType body with
    | .error e => .error (.multipart e)
    | .ok ps => .ok (ps.filterMap Multipart.Part.field?)
  | .unsupported essence => .error (.unsupportedContentType essence)

/-- The form of a body. -/
def Form.ofBody (contentType : String) (keepBlank : Bool) (body : Bytes) : Except FormError Form :=
  (fieldsOfBody contentType keepBlank body).map ofList

/-- The form of a query string. -/
def Form.ofQuery (keepBlank : Bool) (query : String) : Form :=
  UrlEncoded.form keepBlank query.toList

end FormReply
