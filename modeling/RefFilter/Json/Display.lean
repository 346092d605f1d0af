import RefFilter.Json.Basic
import RefFilter.Text.Quoted
import RefFilter.Decimal.Shortest

/-! # Values in messages

The form in which a message shows a value: texts are quoted, lists and objects are written with
brackets and braces, a comma and a space between their members, and a colon and a space after the
name of a field.
-/

namespace RefFilter.Json

open Text Decimal

/-- Numbers in messages have a point or an exponent, positional from `1e-4` up to below `1e16`. -/
def messageLayout : Layout := ⟨-4, 15, "inf", "nan"⟩

mutual

def display : Json → String
  | .null => "None"
  | .bool true => "True"
  | .bool false => "False"
  | .int n => toString n
  | .float x => messageLayout.write x
  | .text s => quote s
  | .list items => "[" ++ displayItems items ++ "]"
  | .object fields => "\x7b" ++ displayFields fields ++ "\x7d"

def displayItems : List Json → String
  | [] => ""
  | [item] => display item
  | item :: rest => display item ++ ", " ++ displayItems rest

def displayFields : List (String × Json) → String
  | [] => ""
  | [(name, value)] => quote name ++ ": " ++ display value
  | (name, value) :: rest => quote name ++ ": " ++ display value ++ ", " ++ displayFields rest

end

def kindName : Json → String
  | .null => "NoneType"
  | .bool _ => "bool"
  | .int _ => "int"
  | .float _ => "float"
  | .text _ => "str"
  | .list _ => "list"
  | .object _ => "dict"

end RefFilter.Json
