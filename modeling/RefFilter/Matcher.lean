import RefFilter.Failure
import RefFilter.Regex.Parse
import RefFilter.Regex.Matcher
import RefFilter.Wildcard

/-! # Patterns and matchers

A pattern is a text in one of two dialects. A matcher is what it compiles to: an expression that
has to match the whole of a name, or nothing at all for a wildcard pattern without tokens. A
wildcard pattern always compiles.
-/

namespace RefFilter

inductive Dialect where
  | wildcard
  | regex
deriving Repr, DecidableEq

def Dialect.name : Dialect → String
  | .wildcard => "wildcard"
  | .regex => "regex"

def Dialect.ofName? : String → Option Dialect
  | "wildcard" => some .wildcard
  | "regex" => some .regex
  | _ => none

structure Pattern where
  source : String
  dialect : Dialect
deriving Repr, DecidableEq

/-- A compiled pattern. `regex` is the expression that a name has to match, if there is one. -/
structure Matcher where
  source : String
  dialect : Dialect
  expression : String
  regex : Option Regex
deriving Repr, DecidableEq

namespace Matcher

def accepts (matcher : Matcher) (name : String) : Bool :=
  match matcher.regex with
  | none => false
  | some regex => regex.fullMatch name.toList

def acceptsNothing (matcher : Matcher) : Bool := matcher.regex.isNone

/-- The expression of a wildcard pattern, read with a point that stands for any character. A text
that is no expression gives none. -/
def wildcardRegex? (expression : String) : Option Regex :=
  if expression.isEmpty then none else (Regex.parse [.dotAll] expression).toOption

def ofWildcard (source : String) : Matcher :=
  let expression := Wildcard.translate source
  ⟨source, .wildcard, expression, wildcardRegex? expression⟩

def ofRegex (source : String) : Except Failure Matcher :=
  match Regex.parse [] source with
  | .ok regex => .ok ⟨source, .regex, source, some regex⟩
  | .error error => .error (.ofPattern source error)

def toJson (matcher : Matcher) : Json :=
  .object [("source", .text matcher.source), ("kind", .text matcher.dialect.name),
    ("expression", .text matcher.expression)]

end Matcher

namespace Pattern

def compile (pattern : Pattern) : Except Failure Matcher :=
  match pattern.dialect with
  | .wildcard => .ok (.ofWildcard pattern.source)
  | .regex => Matcher.ofRegex pattern.source

end Pattern

/-- The outcome of a check: whether all is well, and if not, why. -/
structure Verdict where
  ok : Bool
  message : String
deriving Repr, DecidableEq

namespace Verdict

def success : Verdict := ⟨true, ""⟩

def failure (message : String) : Verdict := ⟨false, message⟩

def toJson (verdict : Verdict) : Json :=
  .object [("ok", .bool verdict.ok), ("message", .text verdict.message)]

end Verdict

/-- Check a regular expression: a fault becomes the verdict. -/
def checkPattern (source : String) : Except Failure Verdict :=
  match Matcher.ofRegex source with
  | .ok _ => .ok .success
  | .error (.configuration (.invalidPattern pattern fault)) =>
    .ok (.failure (fault.report pattern))
  | .error failure => .error failure

end RefFilter
