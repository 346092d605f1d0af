import RefFilter.Json.Basic
import RefFilter.Reference.Basic

/-! # Requests

The bodies that the service accepts. A body that does not have the shape of its kind is refused
with every place where it goes wrong, in the order of fields. Nothing is converted, and fields that
are not asked for are ignored.
-/

namespace RefFilter.Service

inductive Place where
  | field (name : String)
  | item (index : Nat)
deriving Repr, DecidableEq

inductive ShapeFault where
  | missing
  | notObject
  | notText
  | notList
  | notMap
deriving Repr, DecidableEq

def ShapeFault.name : ShapeFault → String
  | .missing => "missing"
  | .notObject => "model_attributes_type"
  | .notText => "string_type"
  | .notList => "list_type"
  | .notMap => "dict_type"

structure ShapeError where
  place : List Place
  fault : ShapeFault
deriving Repr, DecidableEq

def Place.toJson : Place → Json
  | .field name => .text name
  | .item index => .int index

def ShapeError.toJson (error : ShapeError) : Json :=
  .object [("loc", .list (error.place.map Place.toJson)), ("type", .text error.fault.name)]

/-- A part of a body, or what is wrong with it. -/
abbrev Shape (α : Type) := Except (List ShapeError) α

namespace Shape

variable {α β : Type}

def refuse (place : List Place) (fault : ShapeFault) : Shape α := .error [⟨place, fault⟩]

def both (first : Shape α) (second : Shape β) : Shape (α × β) :=
  match first, second with
  | .ok a, .ok b => .ok (a, b)
  | .ok _, .error errors => .error errors
  | .error errors, .ok _ => .error errors
  | .error errors, .error more => .error (errors ++ more)

/-- All parts of a list, or all that is wrong with any. -/
def all (part : Nat → Json → Shape α) : Nat → List Json → Shape (List α)
  | _, [] => .ok []
  | index, item :: rest =>
    (both (part index item) (all part (index + 1) rest)).map fun (value, values) => value :: values

end Shape

def bodyPlace : List Place := [.field "body"]

/-- The fields of a body, which has to be there and to be an object. -/
def bodyFields (body : Option Json) : Shape (List (String × Json)) :=
  match body with
  | none | some .null => .refuse bodyPlace .missing
  | some (.object fields) => .ok fields
  | some _ => .refuse bodyPlace .notObject

/-- A field that has to be there and to be a text. -/
def requiredText (place : List Place) (fields : List (String × Json)) (name : String) :
    Shape String :=
  match Json.lookup? fields name with
  | none => .refuse (place ++ [.field name]) .missing
  | some (.text text) => .ok text
  | some _ => .refuse (place ++ [.field name]) .notText

/-- A field that has to be a text if it is there. -/
def textOr (place : List Place) (fields : List (String × Json)) (name fallback : String) :
    Shape String :=
  match Json.lookup? fields name with
  | none => .ok fallback
  | some (.text text) => .ok text
  | some _ => .refuse (place ++ [.field name]) .notText

/-- A field that has to be a text if it is neither absent nor null. -/
def optionalText (place : List Place) (fields : List (String × Json)) (name : String) :
    Shape (Option String) :=
  match Json.lookup? fields name with
  | none | some .null => .ok none
  | some (.text text) => .ok (some text)
  | some _ => .refuse (place ++ [.field name]) .notText

def expressionBody (body : Option Json) : Shape String := do
  let fields ← bodyFields body
  requiredText bodyPlace fields "value"

/-- The rule configurations of a body, each an object; none if it has no list of rules. -/
def rulesBody (body : Option Json) : Shape (List Json) := do
  let fields ← bodyFields body
  let place := bodyPlace ++ [.field "rules"]
  match Json.lookup? fields "rules" with
  | none => .ok []
  | some (.list rules) =>
    Shape.all
      (fun index rule =>
        match rule with
        | .object _ => .ok rule
        | _ => .refuse (place ++ [.item index]) .notMap)
      0 rules
  | some _ => .refuse place .notList

def referenceItem (place : List Place) (value : Json) : Shape ReferenceFields :=
  match value with
  | .object fields =>
    (Shape.both (requiredText place fields "name")
      (Shape.both (textOr place fields "type" Category.branch.name)
        (Shape.both (optionalText place fields "origin") (optionalText place fields "target")))).map
      fun (name, type, origin, target) => ⟨some name, some (.text type), origin, target⟩
  | _ => .refuse place .notObject

def referencesBody (body : Option Json) : Shape (List ReferenceFields) := do
  let fields ← bodyFields body
  let place := bodyPlace ++ [.field "references"]
  match Json.lookup? fields "references" with
  | none => .refuse place .missing
  | some (.list items) =>
    Shape.all (fun index item => referenceItem (place ++ [.item index]) item) 0 items
  | some _ => .refuse place .notList

end RefFilter.Service
