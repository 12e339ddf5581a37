import Mathlib.Data.Nat.Notation

/-!
# JSON values

JSON as `serde_json` holds it. A field of an object is read by `get?` and by the
`as…` functions, which have nothing to return where a value is of another kind.
-/

namespace PayKit.Encoding

/-- A JSON value, with the two kinds of integer that `serde_json` tells apart and
any other number as its text. -/
inductive Json where
  | null
  | bool (value : Bool)
  | unsigned (value : ℕ)
  | negative (value : Int)
  | float (text : String)
  | text (value : String)
  | array (items : List Json)
  | object (members : List (String × Json))

namespace Json

def asU64 : Json → Option ℕ
  | unsigned value => some value
  | _ => none

def asStr : Json → Option String
  | text value => some value
  | _ => none

def asBool : Json → Option Bool
  | bool value => some value
  | _ => none

def asArray : Json → Option (List Json)
  | array items => some items
  | _ => none

def asObject : Json → Option (List (String × Json))
  | object members => some members
  | _ => none

def get? (json : Json) (key : String) : Option Json :=
  json.asObject.bind (·.lookup key)

end Json

end PayKit.Encoding
