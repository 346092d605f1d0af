import RefFilter.Regex.Fault

/-! # Reading a pattern

A pattern is cut into tokens: a backslash and the character after it, or a single character. A
cursor stands before the next token. A backslash that ends the pattern is reported as soon as the
token before it has been read.
-/

namespace RefFilter.Regex

inductive Token where
  | plain (c : Char)
  | escape (c : Char)
  | loneBackslash
deriving Repr, DecidableEq

namespace Token

def width : Token → Nat
  | .escape _ => 2
  | _ => 1

def chars : Token → List Char
  | .plain c => [c]
  | .escape c => ['\\', c]
  | .loneBackslash => ['\\']

def text (token : Token) : String := String.ofList token.chars

def ofChars : List Char → List Token
  | [] => []
  | [c] => [if c = '\\' then .loneBackslash else .plain c]
  | c :: d :: rest =>
    if c = '\\' then .escape d :: ofChars rest else .plain c :: ofChars (d :: rest)

end Token

structure Cursor where
  position : Nat
  tokens : List Token
deriving Repr, DecidableEq

abbrev Reader := StateT Cursor (Except ReadError)

namespace Reader

def failAt {α : Type} (position : Nat) (cause : Cause) : Reader α :=
  throw (.fault ⟨cause, some position⟩)

/-- Stop with a fault `back` characters before the cursor. -/
def fail {α : Type} (cause : Cause) (back : Nat) : Reader α := do
  failAt ((← get).position - back) cause

/-- Refuse a lone backslash as the next token. -/
def checkNext : Reader Unit := do
  match (← get).tokens with
  | .loneBackslash :: _ => fail .endsInBackslash 0
  | _ => pure ()

def peek : Reader (Option Token) := return (← get).tokens.head?

def take : Reader (Option Token) := do
  match (← get).tokens with
  | [] => pure none
  | token :: rest =>
    set (Cursor.mk ((← get).position + token.width) rest)
    checkNext
    pure (some token)

def accept (c : Char) : Reader Bool := do
  if (← peek) = some (.plain c) then
    let _ ← take
    pure true
  else pure false

def remaining : Reader Nat := return (← get).tokens.length

/-- Read at most `n` characters of a class. -/
def takeWhile (member : Char → Bool) : Nat → Reader (List Char)
  | 0 => pure []
  | n + 1 => do
    match ← peek with
    | some (.plain c) =>
      if member c then
        let _ ← take
        return c :: (← takeWhile member n)
      else pure []
    | _ => pure []

/-- Read up to a closing character and past it; at most `n` tokens, with `text` read so far. -/
def takeUntil (close : Char) (what : String) : Nat → List Char → Reader String
  | 0, text => unfinished text
  | n + 1, text => do
    match ← take with
    | none => unfinished text
    | some token =>
      if token = .plain close then
        if text.isEmpty then fail (.missingName what) 1 else pure (String.ofList text)
      else takeUntil close what n (text ++ token.chars)
where
  unfinished (text : List Char) : Reader String :=
    if text.isEmpty then fail (.missingName what) 0
    else fail (.unterminatedName close) text.length

def name (close : Char) (what : String) : Reader String := do
  takeUntil close what (← remaining) []

end Reader

end RefFilter.Regex
