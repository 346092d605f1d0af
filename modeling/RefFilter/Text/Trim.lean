import RefFilter.Unicode.Blank

/-! # Trimming

White space is removed at both ends of a text. A text is blank when nothing is left.
-/

namespace RefFilter.Text

open Unicode

def isSpace (c : Char) : Bool := isBlank c.toNat

def trimChars (cs : List Char) : List Char :=
  ((cs.dropWhile isSpace).reverse.dropWhile isSpace).reverse

def trim (s : String) : String := String.ofList (trimChars s.toList)

def isBlankText (s : String) : Bool := s.toList.all isSpace

/-- Use `fallback` for a text that is absent or blank. -/
def orIfBlank (text : Option String) (fallback : String) : String :=
  match text with
  | none => fallback
  | some s => if isBlankText s then fallback else s

end RefFilter.Text
