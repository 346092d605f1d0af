import RefFilter.Failure
import RefFilter.Rule.Basic
import RefFilter.Text.Trim

/-! # Sections

A section holds the raw texts for one axis: two wildcard lists, or one expression. A blank text is
replaced by a default before anything is compiled, so that a blank include list lets every name
through, a blank exclude list stops none, and a blank expression matches every name.
-/

namespace RefFilter

open Text

structure Section where
  includes : Option String
  excludes : Option String
  regex : Option String
deriving Repr, DecidableEq

namespace Section

/-- The wildcard pattern that every name matches. -/
def includeAll : String := "*"

/-- The wildcard pattern that no name matches. -/
def excludeNone : String := ""

/-- The expression that every name matches. -/
def matchAll : String := "(?s).*"

def fieldNames : List String := ["includes", "excludes", "regex"]

def ofWildcards (includes excludes : Option String) : Section := ⟨includes, excludes, none⟩

def ofRegex (regex : Option String) : Section := ⟨none, none, regex⟩

/-- The patterns of a section, blank texts replaced. -/
def pair (policy : Policy) (texts : Section) : Pair :=
  match policy with
  | .regex => .ofRegex (orIfBlank texts.regex matchAll)
  | .wildcard =>
    .ofWildcards (orIfBlank texts.includes includeAll) (orIfBlank texts.excludes excludeNone)

def textField (name : String) (text : Option String) : List (String × Json) :=
  (text.map fun text => (name, Json.text text)).toList

def toJson (texts : Section) : Json :=
  .object (textField "includes" texts.includes ++ textField "excludes" texts.excludes ++
    textField "regex" texts.regex)

def unknownNames (known names : List String) : List String :=
  (names.filter (!known.contains ·)).mergeSort fun a b => decide (a ≤ b)

def isTextOrNull : Json → Bool
  | .null => true
  | .text _ => true
  | _ => false

def textOf? : Json → Option String
  | .text text => some text
  | _ => none

def textAt (fields : List (String × Json)) (name : String) : Option String :=
  (Json.lookup? fields name).bind textOf?

def checkTexts (fields : List (String × Json)) : Except Failure Unit :=
  match fields.find? fun field => !isTextOrNull field.2 with
  | none => .ok ()
  | some (name, _) => .error (.configuration (.fieldNotText name))

def ofFields (fields : List (String × Json)) : Except Failure Section :=
  match unknownNames fieldNames (fields.map (·.1)) with
  | [] => do
    checkTexts fields
    return ⟨textAt fields "includes", textAt fields "excludes", textAt fields "regex"⟩
  | unknown => .error (.configuration (.unknownSectionFields unknown))

/-- Read the document of a section. A value that stands for nothing is a section without texts. -/
def ofJson (value : Json) : Except Failure Section :=
  if value.isFalsy then .ok ⟨none, none, none⟩
  else
    match value with
    | .object fields => ofFields fields
    | other => .error (.configuration (.sectionNotObject other))

end Section

end RefFilter
