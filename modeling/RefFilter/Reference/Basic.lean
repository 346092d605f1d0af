import RefFilter.Failure
import RefFilter.Text.Lower
import RefFilter.Text.Trim

/-! # References

A reference is a branch, a tag, or a change request, which merges the branch `origin` into the
branch `target`. Each kind of reference exposes names on axes of its own, and those are the names
that rules look at; the own name of a change request is on no axis.
-/

namespace RefFilter

open Text

inductive Category where
  | branch
  | tag
  | changeRequest
deriving Repr, DecidableEq

inductive Axis where
  | branch
  | tag
  | prOrigin
  | prDestination
deriving Repr, DecidableEq

namespace Category

def name : Category → String
  | .branch => "branch"
  | .tag => "tag"
  | .changeRequest => "change_request"

def ofName? : String → Option Category
  | "branch" => some .branch
  | "tag" => some .tag
  | "change_request" => some .changeRequest
  | _ => none

def ofName (name : String) : Except Failure Category :=
  match ofName? name with
  | some category => .ok category
  | none => .error (.unknownCategory name)

def aliases : List String := ["pr", "pull_request", "merge_request"]

/-- Read a category or another name of one, whatever its case and the white space around it. -/
def parse (text : String) : Except Failure Category :=
  let key := toLower (trim text)
  if aliases.contains key then .ok .changeRequest else ofName key

end Category

namespace Axis

def all : List Axis := [.branch, .tag, .prOrigin, .prDestination]

def name : Axis → String
  | .branch => "branch"
  | .tag => "tag"
  | .prOrigin => "pr_origin"
  | .prDestination => "pr_destination"

def ofName? : String → Option Axis
  | "branch" => some .branch
  | "tag" => some .tag
  | "pr_origin" => some .prOrigin
  | "pr_destination" => some .prDestination
  | _ => none

end Axis

inductive Reference where
  | branch (name : String)
  | tag (name : String)
  | changeRequest (name origin target : String)
deriving Repr, DecidableEq

namespace Reference

def category : Reference → Category
  | .branch _ => .branch
  | .tag _ => .tag
  | .changeRequest _ _ _ => .changeRequest

def name : Reference → String
  | .branch name => name
  | .tag name => name
  | .changeRequest name _ _ => name

def isChangeRequest (reference : Reference) : Bool := reference.category = .changeRequest

/-- A reference of a category; a change request needs both names, and no other has any. -/
def make (name : String) (category : Category) (origin target : Option String) :
    Except Failure Reference :=
  match category, origin, target with
  | .changeRequest, some origin, some target => .ok (.changeRequest name origin target)
  | .changeRequest, _, _ => .error (.changeRequestNames name)
  | .branch, none, none => .ok (.branch name)
  | .tag, none, none => .ok (.tag name)
  | other, _, _ => .error (.namesOnOther other.name)

def origin : Reference → Except Failure String
  | .changeRequest _ origin _ => .ok origin
  | other => .error (.noSuchName other.category.name other.name "origin")

def target : Reference → Except Failure String
  | .changeRequest _ _ target => .ok target
  | other => .error (.noSuchName other.category.name other.name "target")

def names : Reference → List (Axis × String)
  | .branch name => [(.branch, name)]
  | .tag name => [(.tag, name)]
  | .changeRequest _ origin target => [(.prOrigin, origin), (.prDestination, target)]

/-- The category of a reference and its names by axis. A change request is asked for its origin and
its target, any other reference for its own name. -/
def classify (reference : Reference) : Except Failure (Category × List (Axis × String)) :=
  if reference.isChangeRequest then do
    let origin ← reference.origin
    let target ← reference.target
    return (.changeRequest, [(.prOrigin, origin), (.prDestination, target)])
  else if reference.category = .tag then return (.tag, [(.tag, reference.name)])
  else return (.branch, [(.branch, reference.name)])

/-- Only a change request is asked for an origin and a target, so no reference fails to tell. -/
theorem classify_eq (reference : Reference) :
    reference.classify = .ok (reference.category, reference.names) := by
  cases reference <;> rfl

def nameOn? (reference : Reference) (axis : Axis) : Option String :=
  reference.names.lookup axis

def toJson : Reference → Json
  | .changeRequest name origin target =>
    .object [("name", .text name), ("type", .text Category.changeRequest.name),
      ("origin", .text origin), ("target", .text target)]
  | other => .object [("name", .text other.name), ("type", .text other.category.name)]

end Reference

/-- The fields of a reference document, before they are checked. -/
structure ReferenceFields where
  name : Option String
  /-- The value of the type, if the document has one. -/
  type : Option Json
  origin : Option String
  target : Option String
deriving Repr

namespace ReferenceFields

/-- Read a text field; a value of another kind counts as absent. -/
def textField (fields : List (String × Json)) (name : String) : Option String :=
  match Json.lookup? fields name with
  | some (.text s) => some s
  | _ => none

def ofJson : Json → ReferenceFields
  | .object fields =>
    ⟨textField fields "name", Json.lookup? fields "type", textField fields "origin",
      textField fields "target"⟩
  | _ => ⟨none, none, none, none⟩

/-- The category that a reference document asks for; a branch, if it has no type. -/
def category (fields : ReferenceFields) : Except Failure Category :=
  match fields.type with
  | none => .ok .branch
  | some (.text text) => Category.parse text
  | some other => .error (.typeNotText other)

/-- The reference of a document. Names of origin and target are read for change requests only. -/
def reference (fields : ReferenceFields) : Except Failure Reference := do
  let category ← fields.category
  match fields.name with
  | none => .error (.missingField "name")
  | some name =>
    match category with
    | .changeRequest => Reference.make name .changeRequest fields.origin fields.target
    | other => Reference.make name other none none

end ReferenceFields

def Reference.ofJson (value : Json) : Except Failure Reference :=
  (ReferenceFields.ofJson value).reference

end RefFilter
