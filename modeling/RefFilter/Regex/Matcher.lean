import RefFilter.Regex.Basic

/-! # Matching

An expression is run at a spot of the text, and what has to match after it is a function on spots.
Alternatives are tried in order, so the first success wins and the captures are those of that
success. A loop takes its least number of turns first. After them a turn that consumed nothing is
the last one, so a loop never takes more turns than there are characters left, and one.

`fullMatch` asks for a match of the whole text.
-/

namespace RefFilter.Regex

/-- Where each group last began and last ended. -/
structure Marks where
  starts : Nat → Option Nat
  stops : Nat → Option Nat

namespace Marks

def none : Marks := ⟨fun _ => .none, fun _ => .none⟩

def enter (marks : Marks) (index position : Nat) : Marks :=
  { marks with starts := fun i => if i = index then some position else marks.starts i }

def leave (marks : Marks) (index position : Nat) : Marks :=
  { marks with stops := fun i => if i = index then some position else marks.stops i }

/-- The positions between which a group matched. A group entered again and not yet left counts
only if its old end does not come before its new start. -/
def span? (marks : Marks) (index : Nat) : Option (Nat × Nat) :=
  match marks.starts index, marks.stops index with
  | some start, some stop => if start ≤ stop then some (start, stop) else .none
  | _, _ => .none

end Marks

/-- A place in the text: what lies before it (nearest first), what lies after it, and the groups
marked on the way. -/
structure Spot where
  position : Nat
  before : List Char
  after : List Char
  marks : Marks

namespace Spot

def start (text : List Char) : Spot := ⟨0, [], text, .none⟩

def back? : Nat → Spot → Option Spot
  | 0, spot => some spot
  | n + 1, spot =>
    match spot.before with
    | [] => none
    | c :: before => back? n { spot with
        position := spot.position - 1, before := before, after := c :: spot.after }

def next? (test : CharTest) (spot : Spot) : Option Spot :=
  match spot.after with
  | [] => none
  | c :: after =>
    if test.accepts c then
      some { spot with position := spot.position + 1, before := c :: spot.before, after := after }
    else none

/-- The place after a text that equals the captured one under a reading. -/
def skip? (reading : Reading) : List Char → Spot → Option Spot
  | [], spot => some spot
  | c :: rest, spot =>
    match spot.after with
    | [] => none
    | d :: after =>
      let equal :=
        if reading.ignoreCase then
          reading.alphabet.lower c.toNat == reading.alphabet.lower d.toNat
        else c == d
      if equal then
        skip? reading rest { spot with
          position := spot.position + 1, before := d :: spot.before, after := after }
      else none

end Spot

namespace Anchor

/-- Whether a neighbour is a word character; there is none outside the text. -/
def isWordAt (alphabet : Alphabet) (neighbours : List Char) : Bool :=
  match neighbours with
  | [] => false
  | c :: _ => CharClass.word.holds alphabet c.toNat

/-- Whether the condition holds at a spot. The empty text has neither a boundary nor a place that
is none. -/
def holds (anchor : Anchor) (spot : Spot) : Bool :=
  match anchor with
  | .textStart => spot.before.isEmpty
  | .lineStart => spot.before.isEmpty || spot.before.head? == some '\n'
  | .textEnd => spot.after.isEmpty || spot.after == ['\n']
  | .lineEnd => spot.after.isEmpty || spot.after.head? == some '\n'
  | .finalEnd => spot.after.isEmpty
  | .boundary alphabet =>
    !(spot.before.isEmpty && spot.after.isEmpty) &&
      isWordAt alphabet spot.before != isWordAt alphabet spot.after
  | .nonBoundary alphabet =>
    !(spot.before.isEmpty && spot.after.isEmpty) &&
      isWordAt alphabet spot.before == isWordAt alphabet spot.after

end Anchor

/-- What has to match after a spot. -/
abbrev Rest := Spot → Option Spot

/-- A part of an expression: given a spot and what follows, the spot where all of it ends. -/
abbrev Part := Spot → Rest → Option Spot

namespace Part

def repeated (part : Part) : Nat → Part
  | 0, spot, rest => rest spot
  | n + 1, spot, rest => part spot fun next => repeated part n next rest

/-- At most `n` further turns, as many as possible first. -/
def greedyTurns (part : Part) : Nat → Part
  | 0, spot, rest => rest spot
  | n + 1, spot, rest =>
    (part spot fun next =>
      if next.position = spot.position then rest next else greedyTurns part n next rest).or
    (rest spot)

/-- At most `n` further turns, as few as possible first. -/
def lazyTurns (part : Part) : Nat → Part
  | 0, spot, rest => rest spot
  | n + 1, spot, rest =>
    (rest spot).or
    (part spot fun next =>
      if next.position = spot.position then rest next else lazyTurns part n next rest)

/-- At most `n` further turns, each kept once it has been made. -/
def keptTurns (part : Part) : Nat → Spot → Spot
  | 0, spot => spot
  | n + 1, spot =>
    match part spot some with
    | none => spot
    | some next => if next.position = spot.position then next else keptTurns part n next

def keptRepeated (part : Part) : Nat → Spot → Option Spot
  | 0, spot => some spot
  | n + 1, spot => (part spot some).bind (keptRepeated part n)

/-- A bound on the optional turns of a loop at a spot. -/
def turnLimit (least : Nat) (most : Option Nat) (spot : Spot) : Nat :=
  match most with
  | none => spot.after.length + 1
  | some m => min (m - least) (spot.after.length + 1)

def looped (part : Part) (greed : Greed) (least : Nat) (most : Option Nat) : Part :=
  fun spot rest =>
    match greed with
    | .greedy => part.repeated least spot fun next =>
        part.greedyTurns (turnLimit least most next) next rest
    | .lazy => part.repeated least spot fun next =>
        part.lazyTurns (turnLimit least most next) next rest
    | .possessive => (part.keptRepeated least spot).bind fun next =>
        rest (part.keptTurns (turnLimit least most next) next)

end Part

/-- Go on from `spot` if a look-around found what it has to find; captures made inside stay. -/
def resume (negated : Bool) (found : Option Spot) (spot : Spot) (rest : Rest) : Option Spot :=
  match found with
  | some inner => if negated then none else rest { spot with marks := inner.marks }
  | none => if negated then rest spot else none

def run (text : List Char) : Regex → Part
  | .empty => fun spot rest => rest spot
  | .char test => fun spot rest => (spot.next? test).bind rest
  | .seq a b => fun spot rest => run text a spot fun next => run text b next rest
  | .alt a b => fun spot rest => (run text a spot rest).or (run text b spot rest)
  | .group index body => fun spot rest =>
    run text body { spot with marks := spot.marks.enter index spot.position } fun next =>
      rest { next with marks := next.marks.leave index next.position }
  | .loop greed least most body => fun spot rest =>
    Part.looped (run text body) greed least most spot rest
  | .anchor condition => fun spot rest => if condition.holds spot then rest spot else none
  | .look direction negated body => fun spot rest =>
    match direction with
    | .ahead => resume negated (run text body spot some) spot rest
    | .behind width =>
      resume negated ((spot.back? width.least).bind fun earlier => run text body earlier some)
        spot rest
  | .atomic body => fun spot rest => (run text body spot some).bind rest
  | .backref index reading => fun spot rest =>
    match spot.marks.span? index with
    | none => none
    | some (start, stop) =>
      (spot.skip? reading ((text.drop start).take (stop - start))).bind rest
  | .ifGroup index yes no => fun spot rest =>
    if (spot.marks.span? index).isSome then run text yes spot rest else run text no spot rest

def fullMatch (regex : Regex) (text : List Char) : Bool :=
  (run text regex (.start text) fun spot => if spot.after.isEmpty then some spot else none).isSome

end RefFilter.Regex
