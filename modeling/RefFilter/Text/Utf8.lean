import RefFilter.Text.Quoted

/-! # Bytes of a text file

A file holds UTF-8. Bytes that are no UTF-8 are a fault with the range of bytes that cannot be
read: a byte that starts no character, a character that is cut short by a wrong byte, or one that
is cut short by the end. In the text every line ends in a single newline.
-/

namespace RefFilter.Text

inductive ByteCause where
  | invalidStart
  | invalidContinuation
  | unexpectedEnd
deriving Repr, DecidableEq

def ByteCause.message : ByteCause → String
  | .invalidStart => "invalid start byte"
  | .invalidContinuation => "invalid continuation byte"
  | .unexpectedEnd => "unexpected end of data"

/-- Bytes that cannot be read: from `start` to before `stop`, the first of them `byte`. -/
structure ByteFault where
  cause : ByteCause
  byte : Nat
  start : Nat
  stop : Nat
deriving Repr, DecidableEq

def ByteFault.report (fault : ByteFault) : String :=
  let range :=
    if fault.stop = fault.start + 1 then
      "byte 0x" ++ String.ofList (hexDigits 2 fault.byte) ++ " in position " ++
        toString fault.start
    else "bytes in position " ++ toString fault.start ++ "-" ++ toString (fault.stop - 1)
  "'utf-8' codec can't decode " ++ range ++ ": " ++ fault.cause.message

/-- A character whose first bytes have been read: `needed` more bytes, the next of them between
`low` and `high`. -/
structure PartialChar where
  first : Nat
  start : Nat
  needed : Nat
  low : Nat
  high : Nat
  value : Nat
deriving Repr, DecidableEq

/-- The character that a first byte of several begins. -/
def PartialChar.ofFirst? (position byte : Nat) : Option PartialChar :=
  let begins (needed low high value : Nat) : Option PartialChar :=
    some ⟨byte, position, needed, low, high, value⟩
  if byte < 0xC2 then none
  else if byte < 0xE0 then begins 1 0x80 0xBF (byte - 0xC0)
  else if byte = 0xE0 then begins 2 0xA0 0xBF 0
  else if byte = 0xED then begins 2 0x80 0x9F 0xD
  else if byte < 0xF0 then begins 2 0x80 0xBF (byte - 0xE0)
  else if byte = 0xF0 then begins 3 0x90 0xBF 0
  else if byte < 0xF4 then begins 3 0x80 0xBF (byte - 0xF0)
  else if byte = 0xF4 then begins 3 0x80 0x8F 4
  else none

/-- Read the bytes from a position on, inside a character if one has been begun. -/
def decodeFrom (position : Nat) : Option PartialChar → List UInt8 → Except ByteFault (List Char)
  | none, [] => .ok []
  | some char, [] => .error ⟨.unexpectedEnd, char.first, char.start, position⟩
  | none, byte :: rest =>
    let byte := byte.toNat
    if byte < 0x80 then (decodeFrom (position + 1) none rest).map (Char.ofNat byte :: ·)
    else
      match PartialChar.ofFirst? position byte with
      | none => .error ⟨.invalidStart, byte, position, position + 1⟩
      | some char => decodeFrom (position + 1) (some char) rest
  | some char, byte :: rest =>
    let byte := byte.toNat
    if char.low ≤ byte ∧ byte ≤ char.high then
      let value := char.value * 0x40 + (byte - 0x80)
      if char.needed ≤ 1 then
        (decodeFrom (position + 1) none rest).map (Char.ofNat value :: ·)
      else
        decodeFrom (position + 1)
          (some { char with needed := char.needed - 1, low := 0x80, high := 0xBF, value := value })
          rest
    else .error ⟨.invalidContinuation, char.first, char.start, position⟩

def decodeBytes (bytes : List UInt8) : Except ByteFault (List Char) := decodeFrom 0 none bytes

/-- End every line in a single newline. -/
def unifyLines : List Char → List Char
  | [] => []
  | '\r' :: '\n' :: rest => '\n' :: unifyLines rest
  | '\r' :: rest => '\n' :: unifyLines rest
  | c :: rest => c :: unifyLines rest

def readFileText (bytes : List UInt8) : Except ByteFault (List Char) :=
  (decodeBytes bytes).map unifyLines

end RefFilter.Text
