import RefFilter.Regex.CharTest

/-! # Flags

The switches of an expression. A scope starts from the flags around it, with some turned on and
some turned off; turning on an alphabet turns the other one off.
-/

namespace RefFilter.Regex

inductive Flag where
  | ignoreCase
  | locale
  | multiline
  | dotAll
  | verbose
  | ascii
  | unicode
  /-- Refuses every quantifier; it can be set for the whole expression only. -/
  | noRepeat
deriving Repr, DecidableEq

def Flag.ofChar? : Char → Option Flag
  | 'i' => some .ignoreCase
  | 'L' => some .locale
  | 'm' => some .multiline
  | 's' => some .dotAll
  | 'x' => some .verbose
  | 'a' => some .ascii
  | 'u' => some .unicode
  | 't' => some .noRepeat
  | _ => none

/-- Whether a flag chooses the alphabet. -/
def Flag.isAlphabet : Flag → Bool
  | .ascii | .unicode | .locale => true
  | _ => false

/-- The flags that are on. -/
abbrev Flags := List Flag

namespace Flags

def within (flags on off : Flags) : Flags :=
  let kept := if on.any (·.isAlphabet) then flags.filter (!·.isAlphabet) else flags
  (kept ++ on).filter (!off.contains ·)

def alphabet (flags : Flags) : Alphabet := if flags.contains .ascii then .ascii else .unicode

def reading (flags : Flags) : Reading := ⟨flags.alphabet, flags.contains .ignoreCase⟩

end Flags

end RefFilter.Regex
