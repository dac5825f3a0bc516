/-!
# JSON values

Numbers are integers.  The members of an object keep their order and may repeat a name.
-/

namespace FormReply.Json

/-- A JSON value. -/
inductive Value where
  | null
  | bool (b : Bool)
  | int (n : Int)
  | str (s : String)
  | arr (items : List Value)
  | obj (members : List (String × Value))
deriving Inhabited, Repr

end FormReply.Json
