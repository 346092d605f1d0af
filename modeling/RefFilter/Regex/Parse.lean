import RefFilter.Regex.SetReader
import RefFilter.Regex.GroupReader

/-! # Reading an expression

A pattern is read token by token. Each step extends the outline of what has been read; every step
reads at least one token, so a pattern has no more steps than tokens. At the end the parentheses
have to balance, the groups that choices ask for have to exist, and the look-behinds have to have
a fixed width.
-/

namespace RefFilter.Regex

namespace Reader

/-! ## Escapes outside sets -/

def anchorOf? (alphabet : Alphabet) : Char → Option Anchor
  | 'A' => some .textStart
  | 'b' => some (.boundary alphabet)
  | 'B' => some (.nonBoundary alphabet)
  | 'Z' => some .finalEnd
  | _ => none

/-- The part that accepts one character as the flags say. -/
def literal (flags : Flags) (code : Nat) : Regex := .char (.one code false flags.reading)

/-- Read an escape that begins with a digit other than zero: a reference of one or two digits, or
a character of three octal digits. -/
def numberEscape (outline : Outline) (c : Char) : Reader Regex := do
  let second ← takeWhile Char.isDigit 1
  let third ←
    if isOctal c && second.all isOctal && !second.isEmpty then takeWhile isOctal 1 else pure []
  let digits := c :: (second ++ third)
  if third ≠ [] then return literal outline.flags (← octalCode digits)
  else
    let index := valueOf 10 digits
    if index ≤ outline.widths.length then backref outline index (digits.length + 1)
    else fail (.invalidGroup index) digits.length

def escape (outline : Outline) (c : Char) : Reader Regex := do
  match anchorOf? outline.flags.alphabet c, charClass? c, controlCode? c with
  | some condition, _, _ => pure (.anchor condition)
  | _, some (kind, negated), _ =>
    pure (.char (.set [.cls kind negated] false outline.flags.reading))
  | _, _, some code => pure (literal outline.flags code)
  | none, none, none =>
    if c = '0' then
      return literal outline.flags (valueOf 8 (c :: (← takeWhile isOctal 2)))
    else if c.isDigit then numberEscape outline c
    else return literal outline.flags (← charCode c)

/-! ## Quantifiers -/

/-- The least repeat count that is refused. -/
def repeatLimit : Nat := 4294967295

def repeatCount (digits : List Char) : Reader Nat :=
  if maxDigits < digits.length then throw (.tooManyDigits digits.length)
  else if repeatLimit ≤ valueOf 10 digits then throw .repeatTooLarge
  else pure (valueOf 10 digits)

/-- Read the mark after a quantifier that tells how it chooses its number of turns. -/
def greed : Reader Greed := do
  if ← accept '?' then pure .lazy
  else if ← accept '+' then pure .possessive
  else pure .greedy

/-- Make the latest part a loop. `here` is the position after the first character of the
quantifier. -/
def quantify (outline : Outline) (here least : Nat) (most : Option Nat) : Reader Outline := do
  match outline.pieces with
  | [] => failAt (here - 1) .nothingToRepeat
  | piece :: pieces =>
    match piece.closed, piece.regex with
    | false, .anchor _ => failAt (here - 1) .nothingToRepeat
    | false, .loop _ _ _ _ => failAt (here - 1) .multipleRepeat
    | _, regex =>
      pure { outline with pieces := ⟨.loop (← greed) least most regex, false⟩ :: pieces }

/-- Read a count in braces after the opening brace; anything else after the brace makes the brace
a character. -/
def counted (outline : Outline) : Reader Outline := do
  let cursor ← get
  let brace := outline.add (literal outline.flags '\x7b'.toNat)
  if (← peek) = some (.plain '\x7d') then pure brace
  else
    let least ← takeWhile Char.isDigit (← remaining)
    let range ← accept ','
    let most ← if range then takeWhile Char.isDigit (← remaining) else pure least
    if ← accept '\x7d' then
      let low ← if least.isEmpty then pure 0 else repeatCount least
      let high ← if most.isEmpty then pure none else some <$> repeatCount most
      if high.any (· < low) then failAt cursor.position .leastAboveMost
      else quantify outline cursor.position low high
    else
      set cursor
      pure brace

/-! ## Steps -/

def closeParenthesis (outline : Outline) : Reader Outline :=
  match outline.frames with
  | [] => fail .unbalanced 1
  | frame :: frames => pure (outline.closeFrame frame frames)

def bar (outline : Outline) : Reader Outline :=
  match outline.frames with
  | frame :: frames =>
    match frame.opening with
    | .choice index none =>
      pure { outline with
        pieces := []
        frames := { frame with opening := .choice index (some outline.branch) } :: frames }
    | _ => pure outline.nextBranch
  | [] => pure outline.nextBranch

def plain (outline : Outline) (c : Char) : Reader Outline := do
  let here := (← get).position
  match c with
  | '[' => return outline.add (.char (← charSet outline.flags))
  | '*' => quantify outline here 0 none
  | '+' => quantify outline here 1 none
  | '?' => quantify outline here 0 (some 1)
  | '\x7b' => counted outline
  | '.' => pure (outline.add (.char (.any (outline.flags.contains .dotAll))))
  | '(' => openParenthesis outline
  | ')' => closeParenthesis outline
  | '|' => bar outline
  | '^' =>
    pure (outline.add (.anchor
      (if outline.flags.contains .multiline then .lineStart else .textStart)))
  | '$' =>
    pure (outline.add (.anchor
      (if outline.flags.contains .multiline then .lineEnd else .textEnd)))
  | _ => pure (outline.add (literal outline.flags c.toNat))

def choiceComplete (outline : Outline) : Bool :=
  match outline.frames with
  | ⟨.choice _ (some _), _, _, _, _⟩ :: _ => true
  | _ => false

def step (outline : Outline) : Reader Outline := do
  if choiceComplete outline && (← peek) = some (.plain '|') then fail .tooManyBranches 0
  match ← take with
  | none => pure outline
  | some .loneBackslash => fail .endsInBackslash 1
  | some (.escape c) => return outline.add (← escape outline c)
  | some (.plain c) =>
    if outline.flags.contains .verbose && isPatternSpace c then pure outline
    else if outline.flags.contains .verbose && c == '#' then do
      skipLine (← remaining)
      pure outline
    else plain outline c

/-- Read at most `n` tokens and what belongs to them, up to the end of the pattern or a closing
parenthesis that was not opened. -/
def steps : Nat → Outline → Reader Outline
  | 0, outline => pure outline
  | n + 1, outline => do
    match (← get).tokens with
    | [] => pure outline
    | token :: _ =>
      if token = .plain ')' ∧ outline.frames = [] then pure outline
      else steps n (← step outline)

def finish (outline : Outline) : Reader Regex := do
  match outline.frames with
  | frame :: _ => failAt frame.start .unterminatedGroup
  | [] =>
    if outline.flags.contains .ascii && outline.flags.contains .unicode then
      throw .alphabetConflict
    else if (← peek).isSome then fail .unbalanced 0
    else
      match outline.choices.find? fun choice => outline.widths.length < choice.1 with
      | some (index, position) => failAt position (.invalidGroup index)
      | none => pure outline.body

def pattern (flags : Flags) : Reader (Regex × Flags) := do
  checkNext
  let outline ← steps (← remaining) (.start flags)
  return (← finish outline, outline.flags)

end Reader

/-! ## Checks on the whole tree -/

def behindLimit : Nat := 4294967295

def Greed.name : Greed → String
  | .greedy => "MAX_REPEAT"
  | .lazy => "MIN_REPEAT"
  | .possessive => "POSSESSIVE_REPEAT"

def Direction.defect? : Direction → Option Cause
  | .ahead => none
  | .behind width =>
    if behindLimit < width.least then some .lookBehindTooWide
    else if width.most ≠ some width.least then some .lookBehindNotFixed
    else none

/-- The first part, from the left and from the outside, that the whole tree must not have. -/
def defect? (noRepeat : Bool) : Regex → Option Cause
  | .empty | .char _ | .anchor _ | .backref _ _ => none
  | .seq a b | .alt a b | .ifGroup _ a b => (defect? noRepeat a).or (defect? noRepeat b)
  | .group _ body | .atomic body => defect? noRepeat body
  | .loop greed _ _ body =>
    if noRepeat then some (.repeatRefused greed.name) else defect? noRepeat body
  | .look direction _ body => direction.defect?.or (defect? noRepeat body)

def parse (flags : Flags) (pattern : String) : Except ReadError Regex :=
  match (Reader.pattern flags).run ⟨0, Token.ofChars pattern.toList⟩ with
  | .error error => .error error
  | .ok ((regex, flags), _) =>
    match defect? (flags.contains .noRepeat) regex with
    | some cause => .error (.fault ⟨cause, none⟩)
    | none => .ok regex

end RefFilter.Regex
