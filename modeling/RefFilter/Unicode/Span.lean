/-! # Ranges of code points

A set of code points is a list of closed ranges in ascending order, so a search can stop at the
first range that starts above the code point.
-/

namespace RefFilter.Unicode

/-- A closed range of code points: its least and its greatest. -/
abbrev Span := Nat × Nat

def spanOf? : List Span → Nat → Option Span
  | [], _ => none
  | span :: rest, n =>
    if n < span.1 then none
    else if n ≤ span.2 then some span
    else spanOf? rest n

def inSpans (spans : List Span) (n : Nat) : Bool := (spanOf? spans n).isSome

end RefFilter.Unicode
