import RefFilter.Unicode.Span

/-! # White space

The code points that trimming removes and that the class of blanks holds: those of the Unicode
property `White_Space`, and the four information separators U+001C to U+001F.
-/

namespace RefFilter.Unicode

def blankSpans : List Span :=
  [(0x9, 0xD), (0x1C, 0x20), (0x85, 0x85), (0xA0, 0xA0), (0x1680, 0x1680), (0x2000, 0x200A),
   (0x2028, 0x2029), (0x202F, 0x202F), (0x205F, 0x205F), (0x3000, 0x3000)]

def isBlank (n : Nat) : Bool := inSpans blankSpans n

end RefFilter.Unicode
