/-! # Wildcard patterns

A wildcard pattern is a list of tokens separated by spaces. In a token `*` stands for any run of
characters and everything else for itself. The expression of a pattern has a branch for each token,
in which `*` is written `.*` and a character that means something in an expression is escaped.
-/

namespace RefFilter.Wildcard

def splitAt (mark : Char) : List Char → List (List Char)
  | [] => [[]]
  | c :: rest =>
    if c = mark then [] :: splitAt mark rest
    else
      match splitAt mark rest with
      | [] => [[c]]
      | head :: tail => (c :: head) :: tail

/-- The tokens of a pattern: the parts between its spaces that are not empty. -/
def tokens (pattern : List Char) : List (List Char) :=
  (splitAt ' ' pattern).filter (· ≠ [])

def specialChars : List Char :=
  ['(', ')', '[', ']', '\x7b', '\x7d', '?', '*', '+', '-', '|', '^', '$', '\\', '.', '&', '~', '#',
    ' ', '\t', '\n', '\r', '\x0B', '\x0C']

def escapeChar (c : Char) : List Char := if specialChars.contains c then ['\\', c] else [c]

def translateChar (c : Char) : List Char := if c = '*' then ['.', '*'] else escapeChar c

def translateToken (token : List Char) : List Char := token.flatMap translateChar

def joinBranches : List (List Char) → List Char
  | [] => []
  | [branch] => branch
  | branch :: rest => branch ++ '|' :: joinBranches rest

/-- The expression text of a pattern; it is empty if the pattern has no tokens. -/
def translateChars (pattern : List Char) : List Char :=
  joinBranches ((tokens pattern).map translateToken)

def translate (pattern : String) : String := String.ofList (translateChars pattern.toList)

end RefFilter.Wildcard
