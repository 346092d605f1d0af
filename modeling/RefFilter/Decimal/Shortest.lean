import RefFilter.Decimal.Binary64

/-! # Shortest decimal text of a number

The digits of a finite number are the fewest whose decimal number rounds back to it; of several
the nearest. Digits are tried on coarser grids first: on the grid of a digit count the two
neighbours of the number are the only candidates.
-/

namespace RefFilter.Decimal

/-- The digits of a number with `10 ^ exponent` as the weight of the first one. -/
structure Digits where
  digits : Nat
  exponent : Int
deriving Repr, DecidableEq

namespace Shortest

/-- `m / den` in units of `10 ^ place`, as a quotient of natural numbers. -/
def inUnits (m den : Nat) (place : Int) : Nat × Nat :=
  if place < 0 then (m * Nat.pow 10 (-place).toNat, den)
  else (m, den * Nat.pow 10 place.toNat)

/-- Four times `mantissa * 2 ^ exponent`, and the distances to the ends of the interval that rounds
to it, over a common denominator. -/
def quarters (mantissa : Nat) (exponent : Int) : Nat × Nat × Nat × Nat :=
  let below := if mantissa = Nat.pow 2 52 ∧ Binary64.minExponent < exponent then 1 else 2
  if exponent < 0 then (4 * mantissa, below, 2, 4 * Nat.pow 2 (-exponent).toNat)
  else
    let unit := Nat.pow 2 exponent.toNat
    (4 * mantissa * unit, below * unit, 2 * unit, 4)

/-- The decimal exponent of the first digit of `num / den`, searched downwards from `top`. -/
def leading (num den : Nat) : Nat → Int → Int
  | 0, top => top
  | n + 1, top =>
    let (a, b) := inUnits num den top
    if b ≤ a then top else leading num den n (top - 1)

/-- Whether `candidate * 10 ^ place` rounds to the number at the centre of an interval. -/
def within (even : Bool) (low high den candidate : Nat) (place : Int) : Bool :=
  let (l, d) := inUnits low den place
  let (h, _) := inUnits high den place
  if even then l ≤ candidate * d && candidate * d ≤ h else l < candidate * d && candidate * d < h

/-- The candidate nearest to the centre among those of the grid at `place` that round back. -/
def onGrid (even : Bool) (low centre high den : Nat) (place : Int) : Option Nat :=
  let (c, d) := inUnits centre den place
  let floor := c / d
  let lower := if within even low high den floor place then some floor else none
  let upper := if within even low high den (floor + 1) place then some (floor + 1) else none
  match lower, upper with
  | some a, some b =>
    let up := 2 * (c % d)
    some (if d < up ∨ (up = d ∧ a % 2 = 1) then b else a)
  | some a, none => some a
  | none, found => found

/-- The first grid, from the place of the first digit down, that holds a number that rounds back. -/
def firstGrid (even : Bool) (low centre high den : Nat) : Nat → Int → Option (Nat × Int)
  | 0, _ => none
  | n + 1, place =>
    match onGrid even low centre high den place with
    | some digits => if digits = 0 then firstGrid even low centre high den n (place - 1)
        else some (digits, place)
    | none => firstGrid even low centre high den n (place - 1)

def digitCount (n : Nat) : Nat := (Nat.toDigits 10 n).length

/-- Remove trailing zeros, at most `fuel` of them. -/
def stripZeros : Nat → Nat → Nat
  | 0, n => n
  | fuel + 1, n => if n % 10 = 0 ∧ n ≠ 0 then stripZeros fuel (n / 10) else n

/-- The shortest digits of a positive number `mantissa * 2 ^ exponent`. -/
def digits (mantissa : Nat) (exponent : Int) : Digits :=
  let (centre, below, above, den) := quarters mantissa exponent
  let first := leading centre den 700 330
  match firstGrid (mantissa % 2 = 0) (centre - below) centre (centre + above) den 20 first with
  | none => ⟨0, 0⟩
  | some (digits, place) => ⟨stripZeros 20 digits, place + (digitCount digits : Int) - 1⟩

end Shortest

/-- How a number is written: which exponents of the first digit are written positionally, and the
texts of the numbers that are not finite. -/
structure Layout where
  leastPositional : Int
  mostPositional : Int
  infinity : String
  notANumber : String

def zeros (n : Nat) : String := String.ofList (List.replicate n '0')

namespace Layout

/-- Digits with a point after the digit of weight one, or with an exponent of two digits at
least. -/
def writeDigits (layout : Layout) (value : Digits) : String :=
  let text := toString value.digits
  let chars := text.toList
  if value.exponent < layout.leastPositional ∨ layout.mostPositional < value.exponent then
    let fraction := if chars.length ≤ 1 then "" else "." ++ String.ofList (chars.drop 1)
    let size := toString value.exponent.natAbs
    String.ofList (chars.take 1) ++ fraction ++ "e" ++ (if value.exponent < 0 then "-" else "+") ++
      zeros (2 - size.length) ++ size
  else if value.exponent < 0 then "0." ++ zeros (value.exponent.natAbs - 1) ++ text
  else
    let whole := value.exponent.toNat + 1
    if chars.length ≤ whole then text ++ zeros (whole - chars.length) ++ ".0"
    else String.ofList (chars.take whole) ++ "." ++ String.ofList (chars.drop whole)

def write (layout : Layout) : Binary64 → String
  | .nan => layout.notANumber
  | .infinite negative => (if negative then "-" else "") ++ layout.infinity
  | .finite negative mantissa exponent =>
    (if negative then "-" else "") ++
      if mantissa = 0 then "0.0" else layout.writeDigits (Shortest.digits mantissa exponent)

end Layout

end RefFilter.Decimal
