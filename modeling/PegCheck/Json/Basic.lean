/-!
# JSON values

A `Json` value keeps the fields of an object in the order of the text, repeated names included. A
number with a fraction or an exponent is kept as its canonical text, because no shape of this
library takes one and it is only ever named in a message. A text that breaks off or is ill-formed
becomes a value with a `malformed` leaf at the place of the fault, so that a reader that goes
through the value in text order meets a wrong shape before the fault, or the fault before the wrong
shape, as the text has them.

Headlines:
* **`Json.isWellFormed`**: no leaf of the value is malformed.
-/

namespace PegCheck

/-- A JSON value; `malformed` stands where its text is at fault. -/
inductive Json where
  | null
  | bool (value : Bool)
  | integer (value : Int)
  | fraction (shown : String)
  | text (value : String)
  | array (items : List Json)
  | object (fields : List (String × Json))
  | malformed
  deriving Repr, Inhabited

namespace Json

mutual

/-- Is the value free of malformed leaves? -/
def isWellFormed : Json → Bool
  | .malformed => false
  | .array items => isWellFormedList items
  | .object fields => isWellFormedFields fields
  | _ => true

/-- Are all values of a list free of malformed leaves? -/
def isWellFormedList : List Json → Bool
  | [] => true
  | v :: vs => v.isWellFormed && isWellFormedList vs

/-- Are all values of an object free of malformed leaves? -/
def isWellFormedFields : List (String × Json) → Bool
  | [] => true
  | (_, v) :: fs => v.isWellFormed && isWellFormedFields fs

end

/-- The value of the last field of a name, if the value is an object that has one. -/
def get? (key : String) : Json → Option Json
  | .object fields => (fields.filter fun f => f.1 == key).getLast?.map (·.2)
  | _ => none

/-- The value as a natural number. -/
def nat? : Json → Option Nat
  | .integer (.ofNat n) => some n
  | _ => none

/-- The value as a text. -/
def text? : Json → Option String
  | .text s => some s
  | _ => none

/-- The value as a truth value. -/
def bool? : Json → Option Bool
  | .bool b => some b
  | _ => none

/-- The value as a list. -/
def array? : Json → Option (List Json)
  | .array items => some items
  | _ => none

end Json

end PegCheck
