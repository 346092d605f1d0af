import RefFilter.Regex.Basic
import RefFilter.Regex.Flags

/-! # What has been read of an expression

The state of reading an expression: the parts of the current branch, the branches before it, the
parentheses that are still open, and what is known of the groups. Closing a parenthesis turns the
branches since it was opened into one part of the branch around it.

Ignoring case, branches that are all one character are gathered into a set, because a set folds
its members in its own way. A beginning that all branches share is taken out first.
-/

namespace RefFilter.Regex

/-- A part of a branch. `closed` parts were written in parentheses, so a quantifier applies to
them whatever they hold. -/
structure Piece where
  regex : Regex
  closed : Bool
deriving Repr, DecidableEq

inductive Opening where
  | capture (index : Nat)
  | plain
  | atomic
  | ahead (negated : Bool)
  /-- `outermost` holds if no look-behind is open around it. -/
  | behind (negated outermost : Bool)
  /-- A choice by a group; `yes` is the first branch once it is complete. -/
  | choice (index : Nat) (yes : Option Regex)
deriving Repr, DecidableEq

structure Frame where
  opening : Opening
  start : Nat
  flags : Flags
  pieces : List Piece
  branches : List Regex
deriving Repr, DecidableEq

/-- The state of reading an expression. The lists hold the latest first, except that `widths` is
in the order of the groups. -/
structure Outline where
  flags : Flags
  pieces : List Piece
  branches : List Regex
  frames : List Frame
  widths : List (Option Width)
  names : List (String × Nat)
  /-- The number of groups when the outermost open look-behind began. -/
  behindFrom : Option Nat
  /-- Groups that a choice asks for, with the position to report if there is no such group. -/
  choices : List (Nat × Nat)
deriving Repr, DecidableEq

/-! ## Branches -/

/-- The parts that an expression matches one after another. -/
def factors : Regex → List Regex
  | .empty => []
  | .seq a b => factors a ++ factors b
  | r => [r]

/-- Whether a part can be taken out in front of branches that all begin with it. -/
def isShareable : Regex → Bool
  | .char _ | .anchor _ | .backref _ _ => true
  | _ => false

/-- Take out the beginning that all the branches after `first` share with it. -/
def dropShared : List Regex → List (List Regex) → List Regex × List (List Regex)
  | [], others => ([], [] :: others)
  | head :: first, others =>
    if isShareable head && others.all (·.head? == some head) then
      let (shared, rest) := dropShared first (others.map List.tail)
      (head :: shared, rest)
    else ([], (head :: first) :: others)

/-- The members of a set that accepts what a branch of one character accepts. -/
def setMembers? (reading : Reading) : List Regex → Option (List SetItem)
  | [.char (.one code false own)] => if own = reading then some [.one code] else none
  | [.char (.set items false own)] => if own = reading then some items else none
  | _ => none

/-- Gather branches of one character into a set. -/
def gathered? (reading : Reading) (branches : List Regex) : Option Regex :=
  match branches.map factors with
  | [] => none
  | first :: others =>
    let (shared, rest) := dropShared first others
    (rest.mapM (setMembers? reading)).map fun members =>
      sequence (shared ++ [.char (.set members.flatten.eraseDups false reading)])

def choose (flags : Flags) (branches : List Regex) : Regex :=
  if flags.contains .ignoreCase && 1 < branches.length then
    (gathered? flags.reading branches).getD (alternation branches)
  else alternation branches

namespace Outline

def start (flags : Flags) : Outline := ⟨flags, [], [], [], [], [], none, []⟩

def add (outline : Outline) (regex : Regex) : Outline :=
  { outline with pieces := ⟨regex, false⟩ :: outline.pieces }

def branch (outline : Outline) : Regex := sequence (outline.pieces.reverse.map (·.regex))

def nextBranch (outline : Outline) : Outline :=
  { outline with pieces := [], branches := outline.branch :: outline.branches }

def body (outline : Outline) : Regex :=
  choose outline.flags (outline.branch :: outline.branches).reverse

def openFrame (outline : Outline) (opening : Opening) (start : Nat) (flags : Flags) : Outline :=
  { outline with
    flags := flags
    pieces := []
    branches := []
    frames := ⟨opening, start, outline.flags, outline.pieces, outline.branches⟩ :: outline.frames }

def openGroup (outline : Outline) (name : Option String) (start : Nat) : Outline :=
  let index := outline.widths.length + 1
  { outline.openFrame (.capture index) start outline.flags with
    widths := outline.widths ++ [none]
    names :=
      match name with
      | none => outline.names
      | some name => (name, index) :: outline.names }

def widthOf? (outline : Outline) (index : Nat) : Option Width :=
  match index with
  | 0 => none
  | i + 1 => outline.widths[i]?.join

def widthOf (outline : Outline) (regex : Regex) : Width :=
  regex.width fun index => (outline.widthOf? index).getD .zero

def closedPart (outline : Outline) (opening : Opening) : Regex :=
  match opening with
  | .capture index => .group index outline.body
  | .plain => outline.body
  | .atomic => .atomic outline.body
  | .ahead negated => .look .ahead negated outline.body
  | .behind negated _ => .look (.behind (outline.widthOf outline.body)) negated outline.body
  | .choice index none => .ifGroup index outline.branch .empty
  | .choice index (some yes) => .ifGroup index yes outline.branch

def closeFrame (outline : Outline) (frame : Frame) (frames : List Frame) : Outline :=
  { outline with
    flags := frame.flags
    pieces := ⟨outline.closedPart frame.opening, true⟩ :: frame.pieces
    branches := frame.branches
    frames := frames
    widths :=
      match frame.opening with
      | .capture index => outline.widths.set (index - 1) (some (outline.widthOf outline.body))
      | _ => outline.widths
    behindFrom :=
      match frame.opening with
      | .behind _ true => none
      | _ => outline.behindFrom }

end Outline

end RefFilter.Regex
