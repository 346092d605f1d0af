import RefFilter.Regex.Cursor
import RefFilter.Regex.Basic

/-! # Escapes

What a backslash and the character after it stand for. Outside a set an escape may also be an
anchor or a reference to a group; this module reads what both places share: characters given by
their code, classes, and control characters. Characters given by their name in the tables of Unicode
are left out of the dialect: the form of such an escape is read, and its name is never found.
-/

namespace RefFilter.Regex

def lastCode : Nat := 0x10FFFF

def valueOf (base : Nat) (digits : List Char) : Nat :=
  digits.foldl (fun value c => value * base + digit c) 0
where
  digit (c : Char) : Nat :=
    if c.toNat ≤ 0x39 then c.toNat - 0x30
    else if c.toNat ≤ 0x46 then c.toNat - 0x37
    else c.toNat - 0x57

def isOctal (c : Char) : Bool := '0' ≤ c && c ≤ '7'

def isHex (c : Char) : Bool :=
  c.isDigit || ('a' ≤ c && c ≤ 'f') || ('A' ≤ c && c ≤ 'F')

def controlCode? : Char → Option Nat
  | 'a' => some 0x07
  | 'b' => some 0x08
  | 'f' => some 0x0C
  | 'n' => some 0x0A
  | 'r' => some 0x0D
  | 't' => some 0x09
  | 'v' => some 0x0B
  | '\\' => some 0x5C
  | _ => none

def charClass? : Char → Option (CharClass × Bool)
  | 'd' => some (.digit, false)
  | 'D' => some (.digit, true)
  | 's' => some (.space, false)
  | 'S' => some (.space, true)
  | 'w' => some (.word, false)
  | 'W' => some (.word, true)
  | _ => none

def escapeText (chars : List Char) : String := String.ofList ('\\' :: chars)

namespace Reader

def failEscape {α : Type} (chars : List Char) : Reader α :=
  fail (.badEscape (escapeText chars)) (chars.length + 1)

/-- Read the digits of an escape by code, exactly `count` of them. -/
def hexCode (letter : Char) (count : Nat) : Reader Nat := do
  let digits ← takeWhile isHex count
  if digits.length < count then
    fail (.incompleteEscape (escapeText (letter :: digits))) (digits.length + 2)
  else if valueOf 16 digits ≤ lastCode then pure (valueOf 16 digits)
  else failEscape (letter :: digits)

/-- Read a character given by its name. The table of names is left out of the dialect, so a name
is refused as undefined even where Unicode has a character of that name. -/
def namedCode : Reader Nat := do
  if ← accept '\x7b' then
    let name ← name '\x7d' "character name"
    fail (.undefinedCharacter name) (name.length + 4)
  else fail .missingBrace 0

def octalCode (digits : List Char) : Reader Nat :=
  if valueOf 8 digits ≤ 0xFF then pure (valueOf 8 digits)
  else fail (.octalOutOfRange (escapeText digits)) (digits.length + 1)

/-- An escape without a meaning of its own: a character stands for itself unless it is a letter
or a digit. -/
def selfCode (c : Char) : Reader Nat :=
  if c.isAlpha || c.isDigit then failEscape [c] else pure c.toNat

def charCode (c : Char) : Reader Nat :=
  match c with
  | 'x' => hexCode 'x' 2
  | 'u' => hexCode 'u' 4
  | 'U' => hexCode 'U' 8
  | 'N' => namedCode
  | _ => selfCode c

def setEscape (c : Char) : Reader SetItem := do
  match controlCode? c, charClass? c with
  | some code, _ => pure (.one code)
  | _, some (kind, negated) => pure (.cls kind negated)
  | none, none =>
    if isOctal c then return .one (← octalCode (c :: (← takeWhile isOctal 2)))
    else return .one (← charCode c)

end Reader

end RefFilter.Regex
