import RefFilter.Json.Basic
import RefFilter.Text.Quoted
import RefFilter.Decimal.Shortest

/-! # Writing documents

A document is written with ASCII characters only: a character outside printable ASCII is escaped by
its UTF-16 units. `write` puts everything on one line; `writeIndented` gives each member a line of
its own, two spaces further in than the line of its list or object.
-/

namespace RefFilter.Json

open Text Decimal

def documentLayout : Layout := ⟨-4, 15, "Infinity", "NaN"⟩

def escapeUnit (n : Nat) : List Char := '\\' :: 'u' :: hexDigits 4 n

def escapeChar (c : Char) : List Char :=
  if c = '"' then ['\\', '"']
  else if c = '\\' then ['\\', '\\']
  else if c = '\n' then ['\\', 'n']
  else if c = '\r' then ['\\', 'r']
  else if c = '\t' then ['\\', 't']
  else if c = '\x08' then ['\\', 'b']
  else if c = '\x0C' then ['\\', 'f']
  else if 0x20 ≤ c.toNat ∧ c.toNat < 0x7F then [c]
  else if c.toNat < 0x10000 then escapeUnit c.toNat
  else
    let offset := c.toNat - 0x10000
    escapeUnit (0xD800 + offset / 0x400) ++ escapeUnit (0xDC00 + offset % 0x400)

def writeText (s : String) : List Char := '"' :: s.toList.flatMap escapeChar ++ ['"']

def writeAtom : Json → List Char
  | .null => "null".toList
  | .bool true => "true".toList
  | .bool false => "false".toList
  | .int n => (toString n).toList
  | .float x => (documentLayout.write x).toList
  | .text s => writeText s
  | .list _ => ['[', ']']
  | .object _ => ['\x7b', '\x7d']

mutual

def writeChars : Json → List Char
  | .list items => '[' :: writeItems items ++ [']']
  | .object fields => '\x7b' :: writeFields fields ++ ['\x7d']
  | atom => writeAtom atom

def writeItems : List Json → List Char
  | [] => []
  | [item] => writeChars item
  | item :: rest => writeChars item ++ ',' :: writeItems rest

def writeFields : List (String × Json) → List Char
  | [] => []
  | [(name, value)] => writeText name ++ ':' :: writeChars value
  | (name, value) :: rest => writeText name ++ ':' :: writeChars value ++ ',' :: writeFields rest

end

def write (value : Json) : String := String.ofList (writeChars value)

def newLine (depth : Nat) : List Char := '\n' :: List.replicate (2 * depth) ' '

mutual

/-- The written form of a value whose line has an indentation of `depth` steps. -/
def indentChars (depth : Nat) : Json → List Char
  | .list [] => ['[', ']']
  | .list items => '[' :: indentItems (depth + 1) items ++ newLine depth ++ [']']
  | .object [] => ['\x7b', '\x7d']
  | .object fields => '\x7b' :: indentFields (depth + 1) fields ++ newLine depth ++ ['\x7d']
  | atom => writeAtom atom

def indentItems (depth : Nat) : List Json → List Char
  | [] => []
  | [item] => newLine depth ++ indentChars depth item
  | item :: rest => newLine depth ++ indentChars depth item ++ ',' :: indentItems depth rest

def indentFields (depth : Nat) : List (String × Json) → List Char
  | [] => []
  | [(name, value)] => newLine depth ++ writeText name ++ ':' :: ' ' :: indentChars depth value
  | (name, value) :: rest =>
    newLine depth ++ writeText name ++ ':' :: ' ' :: indentChars depth value ++
      ',' :: indentFields depth rest

end

def writeIndented (value : Json) : String := String.ofList (indentChars 0 value)

end RefFilter.Json
