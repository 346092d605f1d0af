import RefFilter.Regex.CharTest

/-! # Expressions

The tree of a regular expression, with every flag already resolved into the tests, anchors and
loops it governs. The width of a tree bounds the lengths of the texts that it matches; a
look-behind carries the width of its body, because it steps back by that many characters.

The dialect is that of backtracking engines, with groups, choices, look-arounds, atomic and
possessive parts and inline flags. Characters given by their Unicode names are not part of it, as
the table of names is not.
-/

namespace RefFilter

namespace Regex

/-- The least and the greatest length that a tree can match; `none` is no upper bound. -/
structure Width where
  least : Nat
  most : Option Nat
deriving Repr, DecidableEq

inductive Anchor where
  | textStart
  | lineStart
  /-- The end of the text, or the place before a newline that ends it. -/
  | textEnd
  | lineEnd
  /-- The very end of the text. -/
  | finalEnd
  | boundary (alphabet : Alphabet)
  | nonBoundary (alphabet : Alphabet)
deriving Repr, DecidableEq

inductive Greed where
  /-- As many turns as possible, fewer on failure. -/
  | greedy
  /-- As few turns as possible, more on failure. -/
  | lazy
  /-- As many turns as possible, and no fewer. -/
  | possessive
deriving Repr, DecidableEq

inductive Direction where
  | ahead
  | behind (width : Width)
deriving Repr, DecidableEq

end Regex

inductive Regex where
  | empty
  | char (test : Regex.CharTest)
  | seq (first second : Regex)
  | alt (first second : Regex)
  | group (index : Nat) (body : Regex)
  | loop (greed : Regex.Greed) (least : Nat) (most : Option Nat) (body : Regex)
  | anchor (anchor : Regex.Anchor)
  | look (direction : Regex.Direction) (negated : Bool) (body : Regex)
  | atomic (body : Regex)
  | backref (index : Nat) (reading : Regex.Reading)
  | ifGroup (index : Nat) (yes no : Regex)
deriving Repr, DecidableEq

namespace Regex

def sequence : List Regex → Regex
  | [] => .empty
  | [r] => r
  | r :: rest => .seq r (sequence rest)

def alternation : List Regex → Regex
  | [] => .empty
  | [r] => r
  | r :: rest => .alt r (alternation rest)

namespace Width

def zero : Width := ⟨0, some 0⟩

def one : Width := ⟨1, some 1⟩

def addMost : Option Nat → Option Nat → Option Nat
  | some m, some n => some (m + n)
  | _, _ => none

def maxMost : Option Nat → Option Nat → Option Nat
  | some m, some n => some (max m n)
  | _, _ => none

/-- Multiply two upper bounds; nothing repeated without bound is nothing. -/
def mulMost : Option Nat → Option Nat → Option Nat
  | some 0, _ => some 0
  | _, some 0 => some 0
  | some m, some n => some (m * n)
  | _, _ => none

def append (a b : Width) : Width := ⟨a.least + b.least, addMost a.most b.most⟩

def either (a b : Width) : Width := ⟨min a.least b.least, maxMost a.most b.most⟩

def times (a : Width) (least : Nat) (most : Option Nat) : Width :=
  ⟨a.least * least, mulMost a.most most⟩

end Width

def width (groups : Nat → Width) : Regex → Width
  | .empty => .zero
  | .char _ => .one
  | .seq a b => (width groups a).append (width groups b)
  | .alt a b => (width groups a).either (width groups b)
  | .group _ body => width groups body
  | .loop _ least most body => (width groups body).times least most
  | .anchor _ => .zero
  | .look _ _ _ => .zero
  | .atomic body => width groups body
  | .backref index _ => groups index
  | .ifGroup _ yes no => (width groups yes).either (width groups no)

end Regex

end RefFilter
