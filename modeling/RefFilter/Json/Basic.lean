import RefFilter.Decimal.Binary64

/-! # Documents

The values that a JSON text can hold. An object keeps its fields in the order in which their names
first came. A number without point and exponent is an integer.
-/

namespace RefFilter

open Decimal

inductive Json where
  | null
  | bool (value : Bool)
  | int (value : Int)
  | float (value : Binary64)
  | text (value : String)
  | list (items : List Json)
  | object (fields : List (String × Json))
deriving Repr

namespace Json

def lookup? (fields : List (String × Json)) (name : String) : Option Json :=
  fields.lookup name

/-- Put a field: at the place of the one it replaces, or at the end. -/
def put (fields : List (String × Json)) (name : String) (value : Json) : List (String × Json) :=
  match fields with
  | [] => [(name, value)]
  | (key, old) :: rest =>
    if key = name then (key, value) :: rest else (key, old) :: put rest name value

/-- The object with the given fields; of several with one name the last value stays. -/
def ofFields (fields : List (String × Json)) : Json :=
  .object (fields.foldl (fun done field => put done field.1 field.2) [])

/-- Whether a value stands for nothing: null, false, zero, or empty. -/
def isFalsy : Json → Bool
  | .null => true
  | .bool b => !b
  | .int n => n == 0
  | .float x => x.isZero
  | .text s => s.isEmpty
  | .list items => items.isEmpty
  | .object fields => fields.isEmpty

def ofText? : Option String → Json
  | none => .null
  | some s => .text s

end Json

end RefFilter
