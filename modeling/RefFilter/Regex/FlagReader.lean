import RefFilter.Regex.Cursor
import RefFilter.Regex.Flags
import RefFilter.Unicode.Letter

/-! # Flags in a pattern

The letters after `(?`. Closed by a parenthesis they hold for the whole expression; closed by a
colon they open a scope, and letters after a hyphen are turned off in it.
-/

namespace RefFilter.Regex

inductive FlagEdit where
  | whole (on : Flags)
  | scope (on off : Flags)
deriving Repr, DecidableEq

namespace Reader

/-- Stop at a token that is no flag: a letter is an unknown flag, all else ends the flags in a
wrong way. -/
def failFlag {α : Type} (token : Token) (otherwise : Cause) : Reader α :=
  let letter :=
    match token with
    | .plain c => Unicode.isLetter c.toNat
    | _ => false
  fail (if letter then .unknownFlag else otherwise) token.width

def flagOf? : Token → Option Flag
  | .plain c => Flag.ofChar? c
  | _ => none

/-- Read flags to turn on, the first of them given, up to the token after them. -/
def flagsOn : Nat → Flag → Flags → Reader (Flags × Char)
  | 0, _, _ => fail .missingFlagsEnd 0
  | n + 1, flag, on => do
    if flag = .locale then fail .localeFlag 0
    else if flag.isAlphabet && on.any (fun other => other.isAlphabet && other != flag) then
      fail .incompatibleFlags 0
    else
      let on := on ++ [flag]
      match ← take with
      | none => fail .missingFlagsEnd 0
      | some token =>
        match token with
        | .plain ')' => pure (on, ')')
        | .plain '-' => pure (on, '-')
        | .plain ':' => pure (on, ':')
        | _ =>
          match flagOf? token with
          | some next => flagsOn n next on
          | none => failFlag token .missingFlagsEnd

/-- Read flags to turn off, the first of them given, up to the colon after them. -/
def flagsOff : Nat → Flag → Flags → Reader Flags
  | 0, _, _ => fail .missingColon 0
  | n + 1, flag, off => do
    if flag.isAlphabet then fail .alphabetFlagOff 0
    else
      let off := off ++ [flag]
      match ← take with
      | none => fail .missingColon 0
      | some token =>
        if token = .plain ':' then pure off
        else
          match flagOf? token with
          | some next => flagsOff n next off
          | none => failFlag token .missingColon

def flagsAfterHyphen : Reader Flags := do
  match ← take with
  | none => fail .missingFlag 0
  | some token =>
    match flagOf? token with
    | some flag => flagsOff ((← remaining) + 1) flag []
    | none => failFlag token .missingFlag

def flagScope (on off : Flags) : Reader FlagEdit :=
  if off.contains .noRepeat then fail .globalFlagOff 1
  else if on.any (off.contains ·) then fail .flagOnAndOff 1
  else pure (.scope on off)

/-- Read flags, their first character given: a flag, or the hyphen before flags to turn off. -/
def flagEdit (first : Option Flag) : Reader FlagEdit := do
  match first with
  | none => flagScope [] (← flagsAfterHyphen)
  | some flag =>
    let (on, close) ← flagsOn ((← remaining) + 1) flag []
    if close = ')' then pure (.whole on)
    else if on.contains .noRepeat then fail .globalFlagOn 1
    else if close = '-' then flagScope on (← flagsAfterHyphen)
    else flagScope on []

end Reader

end RefFilter.Regex
