import RefFilter.Unicode.CaseShift
import RefFilter.Unicode.CaseContext

/-! # Lower case of a text

Each character is replaced by its lower-case form. One character has a form of two code points,
and the form of the capital sigma depends on its neighbours: it is the final one when a cased
character comes before it and none comes after it, case-ignorable characters set aside.
-/

namespace RefFilter.Text

open Unicode

/-- Whether the first character that is not case-ignorable is cased. -/
def startsCased : List Char → Bool
  | [] => false
  | c :: rest => if isCaseIgnorable c.toNat then startsCased rest else isCased c.toNat

/-- The lower-case form of a character between `before` (nearest first) and `after`. -/
def lowerChar (before : List Char) (c : Char) (after : List Char) : List Char :=
  if c = 'Σ' then
    [if startsCased before && !startsCased after then 'ς' else 'σ']
  else if c = 'İ' then ['i', '\u0307']
  else [Char.ofNat (lower c.toNat)]

def lowerFrom (before : List Char) : List Char → List Char
  | [] => []
  | c :: rest => lowerChar before c rest ++ lowerFrom (c :: before) rest

def toLower (s : String) : String := String.ofList (lowerFrom [] s.toList)

end RefFilter.Text
