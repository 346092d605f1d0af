import RefFilter.Regex.Cursor
import RefFilter.Regex.FlagReader
import RefFilter.Regex.GroupName
import RefFilter.Regex.Outline

/-! # Parentheses and references

What an opening parenthesis begins, and the references to groups. A reference needs a group that
is closed; inside a look-behind it also needs one from before the look-behind.
-/

namespace RefFilter.Regex.Reader

/-- The greatest number a choice may ask for, and one. -/
def groupLimit : Nat := 1073741823

/-- Whether a character is skipped in a verbose expression. -/
def isPatternSpace (c : Char) : Bool := (0x09 ≤ c.toNat && c.toNat ≤ 0x0D) || c == ' '

/-- Check that a group may be referred to from inside an open look-behind. -/
def checkBehind (outline : Outline) (index : Nat) : Reader Unit :=
  match outline.behindFrom with
  | none => pure ()
  | some groups =>
    if (outline.widthOf? index).isNone then fail .openGroup 0
    else if groups < index then fail .sameLookBehind 0
    else pure ()

/-- Refer back to a group by its number; the reference has `width` characters. -/
def backref (outline : Outline) (index width : Nat) : Reader Regex := do
  if (outline.widthOf? index).isNone then fail .openGroup width
  else
    checkBehind outline index
    pure (.backref index outline.flags.reading)

def checkName (name : String) : Reader Unit :=
  if Unicode.isIdentifier name.toList then pure ()
  else fail (.badGroupName name) (name.length + 1)

def groupNamed (outline : Outline) (name : String) : Reader Nat :=
  match outline.names.lookup name with
  | none => fail (.unknownGroup name) (name.length + 1)
  | some index => pure index

def namedBackref (outline : Outline) : Reader Regex := do
  let name ← name ')' "group name"
  checkName name
  let index ← groupNamed outline name
  backref outline index (name.length + 1)

def namedGroup (outline : Outline) (start : Nat) : Reader Outline := do
  let name ← name '>' "group name"
  checkName name
  match outline.names.lookup name with
  | some old =>
    fail (.redefinedGroup name (outline.widths.length + 1) old) (name.length + 1)
  | none => pure (outline.openGroup (some name) start)

def skipComment (start : Nat) : Nat → Reader Unit
  | 0 => failAt start .unterminatedComment
  | n + 1 => do
    match ← take with
    | none => failAt start .unterminatedComment
    | some token => if token = .plain ')' then pure () else skipComment start n

def skipLine : Nat → Reader Unit
  | 0 => pure ()
  | n + 1 => do
    match ← take with
    | none => pure ()
    | some token => if token = .plain '\n' then pure () else skipLine n

/-- Read the group that a choice asks for, with the new list of groups to check at the end. -/
def choiceGroup (outline : Outline) : Reader (Nat × List (Nat × Nat)) := do
  let name ← name ')' "group name"
  if Unicode.isIdentifier name.toList then
    return (← groupNamed outline name, outline.choices)
  else
    match groupNumber? name.toList with
    | none => fail (.badGroupName name) (name.length + 1)
    | some 0 => fail .badGroupNumber (name.length + 1)
    | some index =>
      if groupLimit ≤ index then fail (.invalidGroup index) (name.length + 1)
      else if outline.choices.any (·.1 == index) then pure (index, outline.choices)
      else
        let position := (← get).position - (name.length + 1)
        pure (index, outline.choices ++ [(index, position)])

def choice (outline : Outline) (start : Nat) : Reader Outline := do
  let (index, choices) ← choiceGroup outline
  checkBehind outline index
  pure { outline.openFrame (.choice index none) start outline.flags with choices := choices }

def lookAround (outline : Outline) (start : Nat) (behind negated : Bool) : Outline :=
  if behind then
    let opened := outline.openFrame (.behind negated outline.behindFrom.isNone) start outline.flags
    { opened with behindFrom := some (outline.behindFrom.getD outline.widths.length) }
  else outline.openFrame (.ahead negated) start outline.flags

def flagGroup (outline : Outline) (start : Nat) (first : Option Flag) : Reader Outline := do
  match ← flagEdit first with
  | .scope on off => pure (outline.openFrame .plain start (outline.flags.within on off))
  | .whole on =>
    if outline.frames.isEmpty && outline.branches.isEmpty && outline.pieces.isEmpty then
      pure { outline with flags := outline.flags ++ on }
    else failAt start .globalFlagsInside

def unknownGroup {α : Type} (chars : List Char) : Reader α :=
  fail (.unknownExtension (String.ofList chars)) (chars.length + 1)

/-- Read what follows `(?P`. -/
def namedExtension (outline : Outline) (start : Nat) : Reader Outline := do
  if ← accept '<' then namedGroup outline start
  else if ← accept '=' then return outline.add (← namedBackref outline)
  else
    match ← take with
    | none => fail .unexpectedEnd 0
    | some token => unknownGroup ('P' :: token.chars)

/-- Read what follows `(?<`. -/
def behindExtension (outline : Outline) (start : Nat) : Reader Outline := do
  match ← take with
  | none => fail .unexpectedEnd 0
  | some token =>
    if token = .plain '=' then pure (lookAround outline start true false)
    else if token = .plain '!' then pure (lookAround outline start true true)
    else unknownGroup ('<' :: token.chars)

/-- Read what follows `(?`. -/
def extension (outline : Outline) (start : Nat) : Reader Outline := do
  match ← take with
  | none => fail .unexpectedEnd 0
  | some (.plain c) =>
    match c with
    | 'P' => namedExtension outline start
    | ':' => pure (outline.openFrame .plain start outline.flags)
    | '#' => do
      skipComment start (← remaining)
      pure outline
    | '=' => pure (lookAround outline start false false)
    | '!' => pure (lookAround outline start false true)
    | '<' => behindExtension outline start
    | '(' => choice outline start
    | '>' => pure (outline.openFrame .atomic start outline.flags)
    | '-' => flagGroup outline start none
    | _ =>
      match Flag.ofChar? c with
      | some flag => flagGroup outline start (some flag)
      | none => unknownGroup [c]
  | some token => unknownGroup token.chars

def openParenthesis (outline : Outline) : Reader Outline := do
  let start := (← get).position - 1
  if ← accept '?' then extension outline start
  else pure (outline.openGroup none start)

end RefFilter.Regex.Reader
