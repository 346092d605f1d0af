import RefFilter.Json.Display
import RefFilter.Regex.Fault
import RefFilter.Text.Utf8

/-! # Failures

What can stop an operation, as causes with the values that a report shows. Configuration failures
are the ones that a rule, a profile or a configuration can be rejected for; the others come from
references, from the limits of expressions and numbers, and from files.
-/

namespace RefFilter

open Text

inductive ConfigFailure where
  | noAxis
  | unknownPolicy (value : Json)
  | unknownAxis (name : String)
  /-- A rule got a pattern of the other dialect: the axis, the policy, the dialect. -/
  | wrongDialect (axis policy dialect : String)
  | excludeInRegex (axis : String)
  | excludeMissing (axis : String)
  | invalidPattern (pattern : String) (fault : Regex.Fault)
  | profileNotText (value : Json)
  | unknownProfile (name : String) (known : List String)
  | sectionNotObject (value : Json)
  | unknownSectionFields (names : List String)
  | fieldNotText (name : String)
  | valueNotText (name : String) (value : Json)
  | wildcardFieldsInRegex (axis : String)
  | regexFieldInWildcard (axis : String)
  | ruleNotObject (value : Json)
  | unknownRuleFields (names : List String)
  | unknownProfileFields (profile : String) (names : List String)
  | noLegacyDefaults (profile : String)
  | legacyNotBool (value : Json)
  | noRuleList
  | invalidDocument (path report : String)
deriving Repr

def commaList (names : List String) : String := String.intercalate ", " names

def ConfigFailure.message : ConfigFailure → String
  | .noAxis => "A filter rule must govern at least one axis"
  | .unknownPolicy value => "Unknown policy: " ++ value.display
  | .unknownAxis name => "Unknown axis: " ++ quote name
  | .wrongDialect axis policy dialect =>
    axis ++ ": " ++ policy ++ " rule given a " ++ dialect ++ " pattern"
  | .excludeInRegex axis => axis ++ ": regex rules take a single pattern, not an exclude list"
  | .excludeMissing axis => axis ++ ": wildcard rules need a wildcard exclude pattern"
  | .invalidPattern pattern fault =>
    "Invalid regular expression " ++ quote pattern ++ ": " ++ fault.report pattern
  | .profileNotText value => "Profile name must be a string, got " ++ value.display
  | .unknownProfile name known =>
    "Unknown profile " ++ quote name ++ ". Known profiles: " ++ commaList known
  | .sectionNotObject value => "Axis configuration must be an object, got " ++ value.display
  | .unknownSectionFields names => "Unknown axis fields: " ++ commaList names
  | .fieldNotText name => "Field " ++ quote name ++ " must be a string"
  | .valueNotText name value =>
    "Field " ++ quote name ++ " must be a string, got " ++ value.display
  | .wildcardFieldsInRegex axis => axis ++ ": regex rules use 'regex', not includes/excludes"
  | .regexFieldInWildcard axis => axis ++ ": wildcard rules use includes/excludes, not 'regex'"
  | .ruleNotObject value => "Rule configuration must be an object, got " ++ value.display
  | .unknownRuleFields names => "Unknown rule fields: " ++ commaList names
  | .unknownProfileFields profile names =>
    "Profile " ++ quote profile ++ " has no fields: " ++ commaList names
  | .noLegacyDefaults profile => "Profile " ++ quote profile ++ " has no legacy defaults"
  | .legacyNotBool value => "Field 'legacy' must be true or false, got " ++ value.display
  | .noRuleList => "Filter configuration must be an object with a 'rules' list"
  | .invalidDocument path report => "Invalid JSON in " ++ path ++ ": " ++ report

inductive Failure where
  | configuration (cause : ConfigFailure)
  /-- A name was asked of a reference that has none of its kind. -/
  | noSuchName (category name which : String)
  | unknownCategory (text : String)
  | changeRequestNames (name : String)
  | namesOnOther (category : String)
  | missingField (name : String)
  | typeNotText (value : Json)
  | repeatTooLarge
  | tooManyDigits (digits : Nat)
  | alphabetConflict
  | undecodable (fault : ByteFault)
  | missingFile (path : String)
deriving Repr

def Failure.message : Failure → String
  | .configuration cause => cause.message
  | .noSuchName category name which => category ++ " " ++ quote name ++ " has no " ++ which ++ " name"
  | .unknownCategory text => quote text ++ " is not a valid ReferenceCategory"
  | .changeRequestNames name =>
    "Change request " ++ quote name ++ " needs both an origin and a target name"
  | .namesOnOther category =>
    "Only change requests carry origin/target names, got " ++ category
  | .missingField name => quote name
  | .typeNotText value => "'" ++ value.kindName ++ "' object has no attribute 'strip'"
  | .repeatTooLarge => "the repetition number is too large"
  | .tooManyDigits digits =>
    "Exceeds the limit (4300 digits) for integer string conversion: value has " ++
      toString digits ++ " digits; use sys.set_int_max_str_digits() to increase the limit"
  | .alphabetConflict => "ASCII and UNICODE flags are incompatible"
  | .undecodable fault => fault.report
  | .missingFile path => "[Errno 2] No such file or directory: " ++ quote path

def Failure.ofPattern (pattern : String) : Regex.ReadError → Failure
  | .fault fault => .configuration (.invalidPattern pattern fault)
  | .repeatTooLarge => .repeatTooLarge
  | .tooManyDigits digits => .tooManyDigits digits
  | .alphabetConflict => .alphabetConflict

end RefFilter
