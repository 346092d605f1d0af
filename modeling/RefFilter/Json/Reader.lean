import RefFilter.Json.Basic

/-! # Reading documents

A value is read from the front of a list of characters, and the characters after it are left. A
fault is noted with the number of characters that were left where it was found, which gives its
position in the whole text. Besides the values of the standard, the reader accepts `NaN`,
`Infinity` and `-Infinity` as numbers. A surrogate that is not one of a pair is no character, so it
is read as U+FFFD.

The readers of values, members and fields spend one unit of a bound on each of their turns. To open
a list or an object takes one character and two turns, one for it and one for its members, so a
bound of more than twice the number of characters is never spent.
-/

namespace RefFilter.Json

open Decimal

inductive ReadCause where
  | expectedValue
  | expectedName
  | expectedColon
  | expectedComma
  | extraData
  | unterminatedText
  | controlCharacter
  | badEscape
  | badUnicodeEscape
  | byteOrderMark
deriving Repr, DecidableEq

def ReadCause.message : ReadCause → String
  | .expectedValue => "Expecting value"
  | .expectedName => "Expecting property name enclosed in double quotes"
  | .expectedColon => "Expecting ':' delimiter"
  | .expectedComma => "Expecting ',' delimiter"
  | .extraData => "Extra data"
  | .unterminatedText => "Unterminated string starting at"
  | .controlCharacter => "Invalid control character at"
  | .badEscape => "Invalid \\escape"
  | .badUnicodeEscape => "Invalid \\uXXXX escape"
  | .byteOrderMark => "Unexpected UTF-8 BOM (decode using utf-8-sig)"

/-- Why reading stops: a fault of the document, with the number of characters left where it was
found, or a number with more digits than a number may have. -/
inductive ReadStop where
  | fault (cause : ReadCause) (left : Nat)
  | tooManyDigits (digits : Nat)
deriving Repr, DecidableEq

def isGap (c : Char) : Bool := c == ' ' || c == '\t' || c == '\n' || c == '\r'

def skipGap (cs : List Char) : List Char := cs.dropWhile isGap

/-! ## Texts -/

def hexValue? (c : Char) : Option Nat :=
  if '0' ≤ c ∧ c ≤ '9' then some (c.toNat - 0x30)
  else if 'a' ≤ c ∧ c ≤ 'f' then some (c.toNat - 0x57)
  else if 'A' ≤ c ∧ c ≤ 'F' then some (c.toNat - 0x37)
  else none

def unit? : List Char → Option (Nat × List Char)
  | a :: b :: c :: d :: rest =>
    match hexValue? a, hexValue? b, hexValue? c, hexValue? d with
    | some a, some b, some c, some d => some (((a * 16 + b) * 16 + c) * 16 + d, rest)
    | _, _, _, _ => none
  | _ => none

def isHighUnit (n : Nat) : Bool := 0xD800 ≤ n && n ≤ 0xDBFF

def isLowUnit (n : Nat) : Bool := 0xDC00 ≤ n && n ≤ 0xDFFF

/-- The character of a code point, or the replacement character for a surrogate. -/
def charOfUnit (n : Nat) : Char :=
  if isHighUnit n || isLowUnit n then '\uFFFD' else Char.ofNat n

def charOfPair (high low : Nat) : Char :=
  Char.ofNat (0x10000 + (high - 0xD800) * 0x400 + (low - 0xDC00))

def unicodeEscape (cs : List Char) : Except ReadStop (Char × List Char) :=
  match unit? cs with
  | none => .error (.fault .badUnicodeEscape (cs.length + 1))
  | some (_, []) => .error (.fault .badUnicodeEscape (cs.length + 1))
  | some (high, '\\' :: 'u' :: rest) =>
    if isHighUnit high && 4 < rest.length then
      match unit? rest with
      | none => .error (.fault .badUnicodeEscape (rest.length + 1))
      | some (low, after) =>
        if isLowUnit low then .ok (charOfPair high low, after)
        else .ok (charOfUnit high, '\\' :: 'u' :: rest)
    else .ok (charOfUnit high, '\\' :: 'u' :: rest)
  | some (unit, after) => .ok (charOfUnit unit, after)

def simpleEscape? : Char → Option Char
  | '"' => some '"'
  | '\\' => some '\\'
  | '/' => some '/'
  | 'b' => some '\x08'
  | 'f' => some '\x0C'
  | 'n' => some '\n'
  | 'r' => some '\r'
  | 't' => some '\t'
  | _ => none

/-- Read the characters of a text up to its closing quote; at most `n` of them. The opening quote
had `left` characters from it to the end. -/
def textChars (left : Nat) : Nat → List Char → Except ReadStop (List Char × List Char)
  | 0, _ => .error (.fault .unterminatedText left)
  | n + 1, cs =>
    match cs with
    | [] => .error (.fault .unterminatedText left)
    | '"' :: rest => .ok ([], rest)
    | '\\' :: rest =>
      match rest with
      | [] => .error (.fault .unterminatedText left)
      | 'u' :: digits => do
        let (c, after) ← unicodeEscape digits
        let (chars, after) ← textChars left n after
        return (c :: chars, after)
      | letter :: after =>
        match simpleEscape? letter with
        | none => .error (.fault .badEscape cs.length)
        | some c => do
          let (chars, after) ← textChars left n after
          return (c :: chars, after)
    | c :: rest =>
      if c.toNat ≤ 0x1F then .error (.fault .controlCharacter cs.length)
      else do
        let (chars, after) ← textChars left n rest
        return (c :: chars, after)

def readText (cs : List Char) : Except ReadStop (String × List Char) := do
  let (chars, after) ← textChars (cs.length + 1) (cs.length + 1) cs
  return (String.ofList chars, after)

/-! ## Numbers -/

def spanDigits (cs : List Char) : List Char × List Char := cs.span Char.isDigit

def digitsValue (digits : List Char) : Nat :=
  digits.foldl (fun value c => value * 10 + (c.toNat - 0x30)) 0

/-- The digits of the whole part: a zero, or digits that do not start with one. -/
def wholePart? (cs : List Char) : Option (List Char × List Char) :=
  match cs with
  | '0' :: rest => some (['0'], rest)
  | c :: _ => if c.isDigit then some (spanDigits cs) else none
  | [] => none

/-- The digits after a point, if the point is followed by some. -/
def fractionPart (cs : List Char) : List Char × List Char :=
  match cs with
  | '.' :: rest =>
    let (digits, after) := spanDigits rest
    if digits.isEmpty then ([], cs) else (digits, after)
  | _ => ([], cs)

/-- The value after an exponent mark, if the mark is followed by one. -/
def exponentPart? (cs : List Char) : Option (Int × List Char) :=
  match cs with
  | mark :: rest =>
    if mark = 'e' ∨ mark = 'E' then
      let (negative, rest) :=
        match rest with
        | '-' :: rest => (true, rest)
        | '+' :: rest => (false, rest)
        | _ => (false, rest)
      let (digits, after) := spanDigits rest
      if digits.isEmpty then none
      else
        let value : Int := digitsValue digits
        some (if negative then -value else value, after)
    else none
  | [] => none

def maxDigits : Nat := 4300

/-- The number for its digits: an integer unless it has a fraction or an exponent. -/
def number (negative : Bool) (whole fraction : List Char) (exponent : Option Int) :
    Except ReadStop Json :=
  if fraction.isEmpty && exponent.isNone then
    if maxDigits < whole.length then .error (.tooManyDigits whole.length)
    else .ok (.int (if negative then -(digitsValue whole : Int) else digitsValue whole))
  else
    let digits := whole ++ fraction
    .ok (.float (.ofDecimal negative (digitsValue digits) digits.length
      (exponent.getD 0 - fraction.length)))

/-- Read a number after its sign; `start` is the text from the sign on. -/
def readNumber (negative : Bool) (start cs : List Char) : Except ReadStop (Json × List Char) :=
  match wholePart? cs with
  | none => .error (.fault .expectedValue start.length)
  | some (whole, rest) => do
    let (fraction, rest) := fractionPart rest
    match exponentPart? rest with
    | none => return (← number negative whole fraction none, rest)
    | some (exponent, rest) => return (← number negative whole fraction (some exponent), rest)

/-! ## Values -/

def words : List (List Char × Json) :=
  [("null".toList, .null), ("true".toList, .bool true), ("false".toList, .bool false),
    ("NaN".toList, .float .nan), ("Infinity".toList, .float (.infinite false)),
    ("-Infinity".toList, .float (.infinite true))]

def readWord? (cs : List Char) : Option (Json × List Char) :=
  words.findSome? fun (word, value) =>
    if word.isPrefixOf cs then some (value, cs.drop word.length) else none

def readAtom (cs : List Char) : Except ReadStop (Json × List Char) :=
  match readWord? cs with
  | some found => .ok found
  | none =>
    match cs with
    | '"' :: rest => do
      let (content, after) ← readText rest
      return (.text content, after)
    | '-' :: rest => readNumber true cs rest
    | _ => readNumber false cs cs

mutual

/-- Read a value in at most `n` turns. -/
def readValue : Nat → List Char → Except ReadStop (Json × List Char)
  | 0, cs => .error (.fault .expectedValue cs.length)
  | n + 1, cs =>
    match cs with
    | '[' :: rest =>
      match skipGap rest with
      | ']' :: after => .ok (.list [], after)
      | inner => do
        let (items, after) ← readItems n inner
        return (.list items, after)
    | '\x7b' :: rest =>
      match skipGap rest with
      | '\x7d' :: after => .ok (.object [], after)
      | inner => do
        let (fields, after) ← readFields n inner
        return (.ofFields fields, after)
    | _ => readAtom cs

def readItems : Nat → List Char → Except ReadStop (List Json × List Char)
  | 0, cs => .error (.fault .expectedValue cs.length)
  | n + 1, cs => do
    let (item, rest) ← readValue n cs
    match skipGap rest with
    | ']' :: after => return ([item], after)
    | ',' :: after => do
      let (items, after) ← readItems n (skipGap after)
      return (item :: items, after)
    | other => .error (.fault .expectedComma other.length)

def readFields : Nat → List Char → Except ReadStop (List (String × Json) × List Char)
  | 0, cs => .error (.fault .expectedName cs.length)
  | n + 1, cs =>
    match cs with
    | '"' :: rest => do
      let (name, rest) ← readText rest
      match skipGap rest with
      | ':' :: rest => do
        let (value, rest) ← readValue n (skipGap rest)
        match skipGap rest with
        | '\x7d' :: after => return ([(name, value)], after)
        | ',' :: after => do
          let (fields, after) ← readFields n (skipGap after)
          return ((name, value) :: fields, after)
        | other => .error (.fault .expectedComma other.length)
      | other => .error (.fault .expectedColon other.length)
    | other => .error (.fault .expectedName other.length)

end

/-- Read a whole document in at most `n` turns. -/
def readCharsWithin (n : Nat) (cs : List Char) : Except ReadStop Json :=
  if cs.head? = some '\uFEFF' then .error (.fault .byteOrderMark cs.length)
  else do
    let (value, rest) ← readValue n (skipGap cs)
    match skipGap rest with
    | [] => return value
    | other => .error (.fault .extraData other.length)

def readChars (cs : List Char) : Except ReadStop Json := readCharsWithin (2 * cs.length + 2) cs

/-- The report on a fault: its wording, its line and its column from one, and its position from
zero. -/
def faultReport (text : List Char) (cause : ReadCause) (left : Nat) : String :=
  let position := text.length - left
  let before := text.take position
  cause.message ++ ": line " ++ toString (before.count '\n' + 1) ++ " column " ++
    toString ((before.reverse.takeWhile (· != '\n')).length + 1) ++
    " (char " ++ toString position ++ ")"

end RefFilter.Json
