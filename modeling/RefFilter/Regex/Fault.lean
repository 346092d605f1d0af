import RefFilter.Text.Quoted

/-! # Faults of an expression

Why a text is no regular expression, and where. A fault is reported with the position of the
character it is about; in a pattern of several lines also with the line and the column there.
Faults found only when the whole tree is known have no position.
-/

namespace RefFilter.Regex

open Text

inductive Cause where
  | endsInBackslash
  | badEscape (text : String)
  | incompleteEscape (text : String)
  | octalOutOfRange (text : String)
  | missingBrace
  | undefinedCharacter (name : String)
  | missingName (what : String)
  | unterminatedName (close : Char)
  | badGroupName (name : String)
  | unknownGroup (name : String)
  | redefinedGroup (name : String) (index old : Nat)
  | openGroup
  | sameLookBehind
  | invalidGroup (index : Nat)
  | badGroupNumber
  | unterminatedSet
  | badRange (lo hi : String)
  | leastAboveMost
  | nothingToRepeat
  | multipleRepeat
  | unexpectedEnd
  | unknownExtension (text : String)
  | unterminatedComment
  | unterminatedGroup
  | tooManyBranches
  | globalFlagsInside
  | unbalanced
  | localeFlag
  | incompatibleFlags
  | unknownFlag
  | missingFlagsEnd
  | missingFlag
  | missingColon
  | globalFlagOn
  | globalFlagOff
  | alphabetFlagOff
  | flagOnAndOff
  | lookBehindTooWide
  | lookBehindNotFixed
  | repeatRefused (loop : String)
deriving Repr, DecidableEq

def Cause.message : Cause → String
  | .endsInBackslash => "bad escape (end of pattern)"
  | .badEscape text => "bad escape " ++ text
  | .incompleteEscape text => "incomplete escape " ++ text
  | .octalOutOfRange text => "octal escape value " ++ text ++ " outside of range 0-0o377"
  | .missingBrace => "missing \x7b"
  | .undefinedCharacter name => "undefined character name " ++ quote name
  | .missingName what => "missing " ++ what
  | .unterminatedName close => "missing " ++ close.toString ++ ", unterminated name"
  | .badGroupName name => "bad character in group name " ++ quote name
  | .unknownGroup name => "unknown group name " ++ quote name
  | .redefinedGroup name index old =>
    "redefinition of group name " ++ quote name ++ " as group " ++ toString index ++
      "; was group " ++ toString old
  | .openGroup => "cannot refer to an open group"
  | .sameLookBehind => "cannot refer to group defined in the same lookbehind subpattern"
  | .invalidGroup index => "invalid group reference " ++ toString index
  | .badGroupNumber => "bad group number"
  | .unterminatedSet => "unterminated character set"
  | .badRange lo hi => "bad character range " ++ lo ++ "-" ++ hi
  | .leastAboveMost => "min repeat greater than max repeat"
  | .nothingToRepeat => "nothing to repeat"
  | .multipleRepeat => "multiple repeat"
  | .unexpectedEnd => "unexpected end of pattern"
  | .unknownExtension text => "unknown extension ?" ++ text
  | .unterminatedComment => "missing ), unterminated comment"
  | .unterminatedGroup => "missing ), unterminated subpattern"
  | .tooManyBranches => "conditional backref with more than two branches"
  | .globalFlagsInside => "global flags not at the start of the expression"
  | .unbalanced => "unbalanced parenthesis"
  | .localeFlag => "bad inline flags: cannot use 'L' flag with a str pattern"
  | .incompatibleFlags => "bad inline flags: flags 'a', 'u' and 'L' are incompatible"
  | .unknownFlag => "unknown flag"
  | .missingFlagsEnd => "missing -, : or )"
  | .missingFlag => "missing flag"
  | .missingColon => "missing :"
  | .globalFlagOn => "bad inline flags: cannot turn on global flag"
  | .globalFlagOff => "bad inline flags: cannot turn off global flag"
  | .alphabetFlagOff => "bad inline flags: cannot turn off flags 'a', 'u' and 'L'"
  | .flagOnAndOff => "bad inline flags: flag turned on and off"
  | .lookBehindTooWide => "looks too much behind"
  | .lookBehindNotFixed => "look-behind requires fixed-width pattern"
  | .repeatRefused loop => "internal: unsupported template operator " ++ loop

/-- A cause and the position it is reported at. -/
structure Fault where
  cause : Cause
  position : Option Nat
deriving Repr, DecidableEq

/-- Line and column, both counted from one, of a position in a text. -/
def lineAndColumn (text : List Char) (position : Nat) : Nat × Nat :=
  let before := text.take position
  (before.count '\n' + 1, (before.reverse.takeWhile (· != '\n')).length + 1)

def Fault.report (pattern : String) (fault : Fault) : String :=
  match fault.position with
  | none => fault.cause.message
  | some position =>
    let text := pattern.toList
    let (line, column) := lineAndColumn text position
    fault.cause.message ++ " at position " ++ toString position ++
      if text.contains '\n' then
        " (line " ++ toString line ++ ", column " ++ toString column ++ ")"
      else ""

/-- Why reading an expression stops. Only a `fault` is a complaint about the expression; the other
causes are limits that a reader does not report as one. -/
inductive ReadError where
  | fault (fault : Fault)
  /-- A repeat count is beyond the greatest one. -/
  | repeatTooLarge
  /-- A repeat count has more digits than a number may have. -/
  | tooManyDigits (digits : Nat)
  /-- The whole expression asks for both alphabets. -/
  | alphabetConflict
deriving Repr, DecidableEq

end RefFilter.Regex
