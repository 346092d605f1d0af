import RefFilter.Unicode.Blank
import RefFilter.Unicode.DecimalDigit
import RefFilter.Unicode.Identifier

/-! # Numbers of groups

The number of a group in a choice may be written with a sign, with digits of any script, with
single low lines between digits, and with white space around it.
-/

namespace RefFilter.Regex

def maxDigits : Nat := 4300

def isNumberSpace (c : Char) : Bool :=
  (0x09 ≤ c.toNat && c.toNat ≤ 0x0D) || c == ' ' || (0x7F < c.toNat && Unicode.isBlank c.toNat)

/-- The values of digits that may have single low lines between them. `afterDigit` tells whether
the number may end or go on with a low line here. -/
def digitValues? : Bool → List Char → Option (List Nat)
  | afterDigit, [] => if afterDigit then some [] else none
  | afterDigit, c :: rest =>
    if c = '_' then if afterDigit then digitValues? false rest else none
    else
      match Unicode.decimalValue? c.toNat with
      | none => none
      | some value => (digitValues? true rest).map (value :: ·)

def splitSign : List Char → Bool × List Char
  | '+' :: rest => (false, rest)
  | '-' :: rest => (true, rest)
  | text => (false, text)

/-- The number that a text writes, unless it is no number or less than zero. -/
def groupNumber? (text : List Char) : Option Nat :=
  let trimmed := ((text.dropWhile isNumberSpace).reverse.dropWhile isNumberSpace).reverse
  let (negative, digits) := splitSign trimmed
  match digitValues? false digits with
  | none => none
  | some values =>
    let number := values.foldl (fun number value => number * 10 + value) 0
    if maxDigits < values.length then none
    else if negative && number != 0 then none
    else some number

end RefFilter.Regex
