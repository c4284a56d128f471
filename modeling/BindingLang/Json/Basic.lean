import BindingLang.Binary64.Exact
import BindingLang.Dict
/-!
  JSON documents.

  A number is an integer of 64 bits or else a float. The entries of an object
  are a dictionary; documents made by this library keep them sorted by key.
-/

namespace BindingLang

/-- A JSON document. -/
inductive Json where
  | null
  | boolean (b : Bool)
  | integer (n : Int64)
  | float (x : Float)
  | string (s : String)
  | array (items : List Json)
  | object (entries : List (String × Json))

namespace Json

/-- The number of a float; what is infinite or not a number has none. -/
def ofFloat (x : Float) : Json := if (Binary64.finite? x).isSome then .float x else .null

/-- An object of the given fields. -/
def ofFields (fields : List (String × Json)) : Json := .object (Dict.ofList fields)

/-- The name of the kind of document. -/
def kindName : Json → String
  | .null => "null"
  | .boolean _ => "boolean"
  | .integer _ => "number"
  | .float _ => "number"
  | .string _ => "string"
  | .array _ => "array"
  | .object _ => "object"

end Json

end BindingLang
