import RefFilter.Regex.Escape
import RefFilter.Regex.Flags

/-! # Sets of characters

The text between square brackets. A closing bracket in the first place is a member, and so is a
hyphen in the first or the last place.
-/

namespace RefFilter.Regex.Reader

def setItem : Token → Reader SetItem
  | .plain c => pure (.one c.toNat)
  | .escape c => setEscape c
  | .loneBackslash => fail .endsInBackslash 0

/-- A range between two members, which have to be single characters in ascending order. -/
def setSpan (first last : Token) (lo hi : SetItem) : Reader SetItem :=
  match lo, hi with
  | .one lo, .one hi =>
    if hi < lo then refused else pure (.span lo hi)
  | _, _ => refused
where
  refused : Reader SetItem :=
    fail (.badRange first.text last.text) (first.width + 1 + last.width)

/-- Read the members of a set that began at a position, up to the closing bracket; at most `n`
members, with `items` read so far. -/
def setItems (start : Nat) : Nat → List SetItem → Reader (List SetItem)
  | 0, _ => failAt start .unterminatedSet
  | n + 1, items => do
    match ← take with
    | none => failAt start .unterminatedSet
    | some first =>
      if first = .plain ']' ∧ items ≠ [] then pure items
      else
        let lo ← setItem first
        if ← accept '-' then
          match ← take with
          | none => failAt start .unterminatedSet
          | some last =>
            if last = .plain ']' then pure (items ++ [lo, .one '-'.toNat])
            else
              let hi ← setItem last
              setItems start n (items ++ [← setSpan first last lo hi])
        else setItems start n (items ++ [lo])

/-- The test for the members of a set. A set of one character is that character. -/
def setTest (items : List SetItem) (negated : Bool) (reading : Reading) : CharTest :=
  match items.eraseDups with
  | [.one code] => .one code negated reading
  | distinct => .set distinct negated reading

def charSet (flags : Flags) : Reader CharTest := do
  let start := (← get).position - 1
  let negated ← accept '^'
  let items ← setItems start (← remaining) []
  pure (setTest items negated flags.reading)

end RefFilter.Regex.Reader
