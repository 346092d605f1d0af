import RefFilter.Matcher
import RefFilter.Reference.Basic

/-! # Rules

A rule guards axes. Under the regex policy the guard of an axis is one matcher, and a name that it
does not accept is excluded. Under the wildcard policy it is two matchers, and a name is excluded
that the first does not accept or that the second accepts. A rule says nothing about a reference
that exposes none of its axes.

A rule is built from pattern pairs. Everything that can be wrong with them is found then; a rule
holds compiled guards only, so a decision cannot fail.
-/

namespace RefFilter

open Text

inductive Policy where
  | regex
  | wildcard
deriving Repr, DecidableEq

namespace Policy

def name : Policy → String
  | .regex => "regex"
  | .wildcard => "wildcard"

def ofName? : String → Option Policy
  | "regex" => some .regex
  | "wildcard" => some .wildcard
  | _ => none

def ofJson (value : Json) : Except Failure Policy :=
  match value with
  | .text text =>
    match ofName? text with
    | some policy => .ok policy
    | none => .error (.configuration (.unknownPolicy value))
  | _ => .error (.configuration (.unknownPolicy value))

def dialect : Policy → Dialect
  | .regex => .regex
  | .wildcard => .wildcard

end Policy

/-- The patterns for one axis: a name has to match `includes`, and must not match `excludes`. -/
structure Pair where
  includes : Pattern
  excludes : Option Pattern
deriving Repr, DecidableEq

/-- Why a name is excluded: it misses the pattern it has to match, or hits the other one. -/
inductive Cause where
  | misses (name source : String)
  | hits (name source : String)
deriving Repr, DecidableEq

def Cause.message : Cause → String
  | .misses name source => quote name ++ " does not match " ++ quote source
  | .hits name source => quote name ++ " matches excluded " ++ quote source

namespace Pair

def ofWildcards (includes excludes : String) : Pair :=
  ⟨⟨includes, .wildcard⟩, some ⟨excludes, .wildcard⟩⟩

def ofRegex (source : String) : Pair := ⟨⟨source, .regex⟩, none⟩

/-- Why a name is excluded, if it is, with a way to compile patterns. The second pattern is compiled
only if the first one accepts. -/
def causeBy (compile : Pattern → Except Failure Matcher) (pair : Pair) (name : String) :
    Except Failure (Option Cause) := do
  let includes ← compile pair.includes
  if !includes.accepts name then return some (.misses name pair.includes.source)
  else
    match pair.excludes with
    | none => return none
    | some pattern =>
      let excludes ← compile pattern
      if excludes.accepts name then return some (.hits name pattern.source) else return none

def cause? (pair : Pair) (name : String) : Except Failure (Option Cause) :=
  pair.causeBy Pattern.compile name

def toJson (pair : Pair) : Json :=
  .object (("include", .text pair.includes.source) ::
    match pair.excludes with
    | none => []
    | some pattern => [("exclude", .text pattern.source)])

def check (policy : Policy) (axis : Axis) (pair : Pair) : Except Failure Unit :=
  if pair.includes.dialect ≠ policy.dialect then
    .error (.configuration (.wrongDialect axis.name policy.name pair.includes.dialect.name))
  else
    match policy, pair.excludes with
    | .regex, none => .ok ()
    | .regex, some _ => .error (.configuration (.excludeInRegex axis.name))
    | .wildcard, some ⟨_, .wildcard⟩ => .ok ()
    | .wildcard, _ => .error (.configuration (.excludeMissing axis.name))

end Pair

inductive Guard where
  | regex (matcher : Matcher)
  | wildcard (includes excludes : Matcher)
deriving Repr, DecidableEq

namespace Guard

def policy : Guard → Policy
  | .regex _ => .regex
  | .wildcard _ _ => .wildcard

/-- Compile the patterns of a pair that fits its policy. -/
def ofPair (pair : Pair) : Except Failure Guard :=
  match pair.excludes with
  | none => (Matcher.ofRegex pair.includes.source).map .regex
  | some pattern =>
    .ok (.wildcard (.ofWildcard pair.includes.source) (.ofWildcard pattern.source))

def pair : Guard → Pair
  | .regex matcher => .ofRegex matcher.source
  | .wildcard includes excludes => .ofWildcards includes.source excludes.source

def cause? (guard : Guard) (name : String) : Option Cause :=
  match guard with
  | .regex matcher => if matcher.accepts name then none else some (.misses name matcher.source)
  | .wildcard includes excludes =>
    if !includes.accepts name then some (.misses name includes.source)
    else if excludes.accepts name then some (.hits name excludes.source)
    else none

end Guard

/-- What a rule, or a set of rules, decides on a reference. `axis` and `name` are those of the
guard that excluded it. -/
structure Decision where
  excluded : Bool
  rule : String
  reason : String
  axis : Option Axis
  name : Option String
deriving Repr, DecidableEq

namespace Decision

def toJson (decision : Decision) : Json :=
  .object [("excluded", .bool decision.excluded), ("rule", .text decision.rule),
    ("reason", .text decision.reason), ("axis", .ofText? (decision.axis.map Axis.name)),
    ("name", .ofText? decision.name)]

end Decision

/-- Guards on axes. Every axis has at most one, there is at least one, and all are of the policy. -/
structure Rule where
  policy : Policy
  guards : List (Axis × Guard)
  name : String
  nonempty : guards ≠ []
  distinct : (guards.map Prod.fst).Nodup
  uniform : ∀ entry ∈ guards, entry.2.policy = policy
deriving Repr

namespace Rule

def guard? (rule : Rule) (axis : Axis) : Option Guard := rule.guards.lookup axis

def axes (rule : Rule) : List Axis := Axis.all.filter fun axis => (rule.guard? axis).isSome

/-- The name that a rule is shown by: its own, or its policy and its axes. -/
def label (rule : Rule) : String :=
  if rule.name.isEmpty then
    rule.policy.name ++ "[" ++ String.intercalate "," (rule.axes.map Axis.name) ++ "]"
  else rule.name

def exclusion (rule : Rule) (axis : Axis) (name : String) (cause : Cause) : Decision :=
  ⟨true, rule.label, axis.name ++ ": " ++ cause.message, some axis, some name⟩

def firstCause? (rule : Rule) (names : List (Axis × String)) : Option (Axis × String × Cause) :=
  names.findSome? fun (axis, name) =>
    (rule.guard? axis).bind fun guard => (guard.cause? name).map fun cause => (axis, name, cause)

def decide (rule : Rule) (reference : Reference) : Decision :=
  match rule.firstCause? reference.names with
  | some (axis, name, cause) => rule.exclusion axis name cause
  | none =>
    let reason :=
      if reference.names.any fun (axis, _) => (rule.guard? axis).isSome then "admitted"
      else "abstains on " ++ reference.category.name
    ⟨false, rule.label, reason, none, none⟩

def excludes (rule : Rule) (reference : Reference) : Bool := (rule.decide reference).excluded

def toJson (rule : Rule) : Json :=
  .object [("name", .text rule.name), ("policy", .text rule.policy.name),
    ("patterns", .object (rule.guards.map fun (axis, guard) => (axis.name, guard.pair.toJson)))]

end Rule

end RefFilter
