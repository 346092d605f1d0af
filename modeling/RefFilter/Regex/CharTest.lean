import RefFilter.Unicode.Blank
import RefFilter.Unicode.Word
import RefFilter.Unicode.DecimalDigit
import RefFilter.Unicode.CaseShift

/-! # Tests on one character

What a single character of an expression accepts: any character, one character, or the members of
a set. A test carries the reading it was written under: the alphabet that its classes and its case
rule know, and whether it ignores case.

Ignoring case, both sides are lowered, and lower-case letters that share an upper-case form count
as one. A set without a cased member is compared as it stands. In a set, a member above U+FFFF is
compared as written, and a range that reaches above U+FFFF also accepts a character whose lowered
form has its upper case in the range.
-/

namespace RefFilter.Regex

open Unicode

inductive Alphabet where
  | ascii
  | unicode
deriving Repr, DecidableEq

inductive CharClass where
  | digit
  | space
  | word
deriving Repr, DecidableEq

structure Reading where
  alphabet : Alphabet
  ignoreCase : Bool
deriving Repr, DecidableEq

inductive SetItem where
  | one (code : Nat)
  | span (lo hi : Nat)
  | cls (kind : CharClass) (negated : Bool)
deriving Repr, DecidableEq

inductive CharTest where
  /-- Any character, the newline only where `newline` holds. -/
  | any (newline : Bool)
  | one (code : Nat) (negated : Bool) (reading : Reading)
  | set (items : List SetItem) (negated : Bool) (reading : Reading)
deriving Repr, DecidableEq

namespace Alphabet

def lower : Alphabet → Nat → Nat
  | .ascii, n => if 0x41 ≤ n ∧ n ≤ 0x5A then n + 0x20 else n
  | .unicode, n => Unicode.lower n

def siblings : Alphabet → Nat → List Nat
  | .ascii, n => [n]
  | .unicode, n => Unicode.siblings n

def lowerSources : Alphabet → Nat → List Nat
  | .ascii, n =>
    if 0x61 ≤ n ∧ n ≤ 0x7A then [n, n - 0x20]
    else if 0x41 ≤ n ∧ n ≤ 0x5A then []
    else [n]
  | .unicode, n => Unicode.lowerSources n

def hasCase : Alphabet → Nat → Bool
  | .ascii, n => (0x41 ≤ n && n ≤ 0x5A) || (0x61 ≤ n && n ≤ 0x7A)
  | .unicode, n => Unicode.hasCase n

def spanHasCase : Alphabet → Nat → Nat → Bool
  | .ascii, lo, hi => (lo ≤ 0x5A && 0x41 ≤ hi) || (lo ≤ 0x7A && 0x61 ≤ hi)
  | .unicode, lo, hi => Unicode.spanHasCase lo hi

def sameLetter (alphabet : Alphabet) (m n : Nat) : Bool :=
  (alphabet.siblings (alphabet.lower m)).contains (alphabet.lower n)

end Alphabet

namespace CharClass

def holds (alphabet : Alphabet) (cls : CharClass) (n : Nat) : Bool :=
  match alphabet, cls with
  | .ascii, .digit => 0x30 ≤ n && n ≤ 0x39
  | .ascii, .space => (0x09 ≤ n && n ≤ 0x0D) || n == 0x20
  | .ascii, .word =>
    (0x30 ≤ n && n ≤ 0x39) || (0x41 ≤ n && n ≤ 0x5A) || (0x61 ≤ n && n ≤ 0x7A) || n == 0x5F
  | .unicode, .digit => isDecimalDigit n
  | .unicode, .space => isBlank n
  | .unicode, .word => isWord n

end CharClass

namespace SetItem

/-- The last code point whose case a set folds. -/
def lastFolded : Nat := 0xFFFF

/-- Whether the member makes its set fold case. -/
def folds (alphabet : Alphabet) : SetItem → Bool
  | .one code => lastFolded < code || alphabet.hasCase code
  | .span lo hi => lastFolded < hi || alphabet.spanHasCase lo hi
  | .cls _ _ => false

def holds (alphabet : Alphabet) (n : Nat) : SetItem → Bool
  | .one code => n == code
  | .span lo hi => lo ≤ n && n ≤ hi
  | .cls kind negated => kind.holds alphabet n != negated

def holdsFolded (alphabet : Alphabet) (n : Nat) : SetItem → Bool
  | .one code =>
    if lastFolded < code then n == code
    else (alphabet.siblings (alphabet.lower code)).contains n
  | .span lo hi =>
    (alphabet.siblings n).any (fun k =>
      (alphabet.lowerSources k).any fun i => lo ≤ i && i ≤ min hi lastFolded) ||
    (lastFolded < hi && ((lo ≤ n && n ≤ hi) || (lo ≤ upper n && upper n ≤ hi)))
  | .cls kind negated => kind.holds alphabet n != negated

end SetItem

namespace CharTest

def acceptsCode : CharTest → Nat → Bool
  | .any newline, n => newline || n != 0x0A
  | .one code negated reading, n =>
    let equal :=
      if reading.ignoreCase && reading.alphabet.hasCase code then
        reading.alphabet.sameLetter code n
      else n == code
    equal != negated
  | .set items negated reading, n =>
    let found :=
      if reading.ignoreCase && items.any (·.folds reading.alphabet) then
        items.any (·.holdsFolded reading.alphabet (reading.alphabet.lower n))
      else items.any (·.holds reading.alphabet n)
    found != negated

def accepts (test : CharTest) (c : Char) : Bool := test.acceptsCode c.toNat

end CharTest

end RefFilter.Regex
