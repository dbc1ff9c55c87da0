import PegCheck.Json.Basic
import PegCheck.Text.Unprintable

/-!
# Reading shapes from JSON values

A shape reads a value of its type from a JSON value or says what is wrong with it. The faults of a
value are met in the order of its text, with one exception: the tag of a tagged value is looked at
before its other fields (see `Grammar.Codec`).

Headlines:
* **`Problem`**: what can be wrong, and **`Problem.message`**, its wording.
* **`Manner`**: the three ways in which a value is read. They differ only in what is said of a list
  that is too long and of a value of an odd type where a bare name is expected.
-/

namespace PegCheck

/-- How a value is read: straight from its text, from the inside of a tagged value whose fields were
all read before, or from a whole value read before. -/
inductive Manner where
  | direct
  | buffered
  | whole
  deriving DecidableEq, Repr, Inhabited

/-- What is wrong with a value: its text is at fault, or it has the wrong shape. -/
inductive Problem where
  | fault
  | missingField (name : String)
  | duplicateField (name : String)
  | unknownVariant (name : String) (known : List String)
  | invalidType (found expected : String)
  | invalidValue (found expected : String)
  | invalidLength (length : Nat) (expected : String)
  deriving DecidableEq, Repr, Inhabited

/-- Reads a value in some manner. -/
abbrev Shape (α : Type) := Manner → Json → Except Problem α

namespace Problem

/-- Names between backquotes, as alternatives. -/
def alternatives (names : List String) : String :=
  let quoted := names.map fun n => "`" ++ n ++ "`"
  match quoted with
  | [a, b] => a ++ " or " ++ b
  | [a] => a
  | _ => "one of " ++ ", ".intercalate quoted

/-- A problem of shape in words. -/
def message : Problem → String
  | .fault => "malformed text"
  | .missingField name => "missing field `" ++ name ++ "`"
  | .duplicateField name => "duplicate field `" ++ name ++ "`"
  | .unknownVariant name known =>
    "unknown variant `" ++ name ++ "`, expected " ++ alternatives known
  | .invalidType found expected => "invalid type: " ++ found ++ ", expected " ++ expected
  | .invalidValue found expected => "invalid value: " ++ found ++ ", expected " ++ expected
  | .invalidLength length expected =>
    "invalid length " ++ toString length ++ ", expected " ++ expected

end Problem

namespace Json

/-- The kind of a value, with the value itself if it is a simple one. -/
def describe : Json → String
  | .null => "null"
  | .bool true => "boolean `true`"
  | .bool false => "boolean `false`"
  | .integer n => "integer `" ++ toString n ++ "`"
  | .fraction shown => "floating point `" ++ shown ++ "`"
  | .text s => "string " ++ String.ofList (Text.quoted s.toList)
  | .array _ => "sequence"
  | .object _ => "map"
  | .malformed => "nothing"

/-- Refuses a value where something else is expected. -/
def refuse {α : Type} (v : Json) (expected : String) : Except Problem α :=
  match v with
  | .malformed => .error .fault
  | v => .error (.invalidType v.describe expected)

end Json

namespace Shape

/-- The largest line or column. -/
def maxCount : Nat := UInt32.size - 1

/-- A line or column number. -/
def count : Shape Nat
  | _, .integer (.ofNat n) =>
    if n ≤ maxCount then .ok n else .error (.invalidValue (Json.integer n).describe "u32")
  | _, .integer n => .error (.invalidValue (Json.integer n).describe "u32")
  | _, v => v.refuse "u32"

/-- A text. -/
def text : Shape String
  | _, .text s => .ok s
  | _, v => v.refuse "a string"

/-- A truth value. -/
def flag : Shape Bool
  | _, .bool b => .ok b
  | _, v => v.refuse "a boolean"

/-- A list of values of one shape. -/
def list {α : Type} (shape : Shape α) : Shape (List α)
  | m, .array items => items.mapM (shape m)
  | _, v => v.refuse "a sequence"

/-- A value that may be null. -/
def nullable {α : Type} (shape : Shape α) : Shape (Option α)
  | _, .null => .ok none
  | m, v => (shape m v).map some

/-- A name out of a table. -/
def nameIn {α : Type} (table : List (String × α)) (name : String) : Except Problem α :=
  match table.find? (·.1 == name) with
  | some (_, x) => .ok x
  | none => .error (.unknownVariant name (table.map (·.1)))

/-- One of the names of a table, written bare or as the only field of an object with a null value.
-/
def bareName {α : Type} (table : List (String × α)) : Shape α
  | _, .text s => nameIn table s
  | m, .object [] =>
    if m = .direct then .error .fault
    else .error (.invalidValue "map" "map with a single key")
  | m, .object ((key, v) :: more) => do
    if m ≠ .direct && !more.isEmpty then throw (.invalidValue "map" "map with a single key")
    if m = .direct && key = "" && !v.isWellFormed then throw .fault
    let x ← nameIn table key
    match v with
    | .null => pure ()
    | v => v.refuse "unit"
    if more.isEmpty then return x else throw .fault
  | m, v => if m = .direct then .error .fault else v.refuse "string or map"

/-- Fills a field that may occur once. -/
def once {α : Type} (name : String) (old : Option α) (read : Except Problem α) :
    Except Problem (Option α) :=
  match old with
  | some _ => .error (.duplicateField name)
  | none => read.map some

/-- Passes over a field that no one asks for. -/
def ignore {α : Type} (v : Json) (x : α) : Except Problem α :=
  if v.isWellFormed then .ok x else .error .fault

/-- The value of a field that has to be there. -/
def required {α : Type} (name : String) : Option α → Except Problem α
  | some x => .ok x
  | none => .error (.missingField name)

/-! ## Records -/

/-- The shape of a record: its name, the names of its fields in order, which of them may be missing,
how a field is read into a draft, and how a draft is finished. -/
structure Record (δ α : Type) where
  title : String
  fields : List String
  optional : List String := []
  field : Manner → δ → String → Json → Except Problem δ
  finish : δ → Except Problem α

/-- A number of elements in words. -/
def elements (n : Nat) : String :=
  if n = 1 then "1 element" else toString n ++ " elements"

/-- Reads a record from the list of its fields' values in order. -/
def Record.ofItems {δ α : Type} (r : Record δ α) (m : Manner) (draft : δ) (items : List Json) :
    Except Problem α := do
  let draft ← (r.fields.zip items).foldlM (fun d (key, v) => r.field m d key v) draft
  let given := items.length
  match (r.fields.drop given).findIdx? fun f => !r.optional.contains f with
  | some i => throw (.invalidLength (given + i) (r.title ++ " with " ++ elements r.fields.length))
  | none =>
    if given > r.fields.length then
      match m with
      | .direct => throw .fault
      | .buffered => throw (.invalidLength given (elements r.fields.length ++ " in sequence"))
      | .whole => throw (.invalidLength given "fewer elements in array")
    r.finish draft

/-- Reads a record from an object, or from the list of its fields' values. -/
def Record.shape {δ α : Type} (r : Record δ α) (draft : δ) : Shape α
  | m, .object fields => do
    r.finish (← fields.foldlM (fun d (key, v) => r.field m d key v) draft)
  | m, .array items => r.ofItems m draft items
  | _, v => v.refuse r.title

end Shape

end PegCheck
