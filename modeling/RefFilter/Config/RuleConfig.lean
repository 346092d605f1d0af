import RefFilter.Config.Section
import RefFilter.Log
import RefFilter.Profile.Builtin
import RefFilter.Rule.Build

/-! # Rule configurations

The configuration of a rule has a section for each axis that it governs. It is written in one of
two forms: with a section for each axis, or with the flat fields of a profile. A document is read
in the second form when it names a profile and has no section.

Building a rule checks that the sections fit the policy, replaces blank texts, and compiles.
-/

namespace RefFilter

open Text

structure RuleConfig where
  policy : Policy
  sections : List (Axis × Section)
  name : String
  profile : Option String
deriving Repr, DecidableEq

namespace RuleConfig

def section? (config : RuleConfig) (axis : Axis) : Option Section := config.sections.lookup axis

def ordered (config : RuleConfig) : RuleConfig :=
  { config with
    sections := Axis.all.filterMap fun axis => (config.section? axis).map (axis, ·) }

/-! ## Building -/

/-- Check that a section has only texts that its policy uses. -/
def checkSection (policy : Policy) (axis : Axis) (texts : Section) : Except Failure Unit :=
  match policy with
  | .regex =>
    if texts.includes.isSome || texts.excludes.isSome then
      .error (.configuration (.wildcardFieldsInRegex axis.name))
    else .ok ()
  | .wildcard =>
    if texts.regex.isSome then .error (.configuration (.regexFieldInWildcard axis.name))
    else .ok ()

/-- Check that there are sections and that they fit the policy. -/
def validate (config : RuleConfig) : Except Failure Unit :=
  if config.sections.isEmpty then .error (.configuration .noAxis)
  else config.sections.forM fun (axis, texts) => checkSection config.policy axis texts

def entries (config : RuleConfig) : List (String × Pair) :=
  config.sections.map fun (axis, texts) => (axis.name, texts.pair config.policy)

def build (config : RuleConfig) : Except Failure Rule := do
  config.validate
  Rule.build (.text config.policy.name) config.entries config.name

/-! ## Documents -/

/-- The document of a configuration, in the form with sections. -/
def toJson (config : RuleConfig) : Json :=
  .object ([("name", .text config.name), ("policy", .text config.policy.name)] ++
    Section.textField "profile" config.profile ++
    config.ordered.sections.map fun (axis, texts) => (axis.name, texts.toJson))

/-- The text of a field that has to be a text if it is neither absent nor null. -/
def textField (fields : List (String × Json)) (name : String) :
    Except Failure (Option String) :=
  match Json.lookup? fields name with
  | none | some .null => .ok none
  | some (.text text) => .ok (some text)
  | some other => .error (.configuration (.valueNotText name other))

/-! ## The flat form -/

/-- Values of profile fields: absent, null (`some none`) or a text. -/
abbrev Values := List (String × Option String)

def valueOf (values : Values) (name : String) : Option String := (values.lookup name).join

def putValue (values : Values) (name text : String) : Values :=
  match values with
  | [] => [(name, some text)]
  | (key, old) :: rest =>
    if key = name then (key, some text) :: rest else (key, old) :: putValue rest name text

def isBlank (text : Option String) : Bool := text.all isBlankText

def blankLegacy (profile : Profile) (values : Values) : List String :=
  (profile.legacyDefaults.map Prod.fst).filter fun name => isBlank (valueOf values name)

def fillLegacy (profile : Profile) (values : Values) : Values :=
  profile.legacyDefaults.foldl
    (fun values entry =>
      if isBlank (valueOf values entry.1) then putValue values entry.1 entry.2 else values)
    values

def profileSection (policy : Policy) (values : Values) (fields : AxisFields) : Section :=
  match policy with
  | .regex => .ofRegex (valueOf values fields.includes)
  | .wildcard =>
    .ofWildcards (valueOf values fields.includes) (fields.excludes.bind (valueOf values))

def expand (profile : Profile) (values : Values) (name : String) : RuleConfig :=
  ⟨profile.policy,
    profile.axes.map fun (axis, fields) => (axis, profileSection profile.policy values fields),
    name, some profile.name⟩

/-- Read the flat fields of a profile, blank ones filled from its legacy defaults on request. -/
def ofProfile (profile : Profile) (values : Values) (name : String) (legacy : Bool) :
    Traced RuleConfig := do
  match Section.unknownNames profile.fieldNames (values.map Prod.fst) with
  | [] =>
    if legacy then
      if profile.legacyDefaults.isEmpty then
        throwFailure (.configuration (.noLegacyDefaults profile.name))
      else do
        Traced.note (.legacyDefaults profile.name (blankLegacy profile values))
        return expand profile (fillLegacy profile values) name
    else return expand profile values name
  | unknown => throwFailure (.configuration (.unknownProfileFields profile.name unknown))
where
  throwFailure (failure : Failure) : Traced RuleConfig := .ofResult (.error failure)

/-- The fields of the flat form that hold no pattern. -/
def metaFields : List String := ["profile", "name", "legacy"]

def legacyField (fields : List (String × Json)) : Except Failure Bool :=
  match Json.lookup? fields "legacy" with
  | none => .ok false
  | some (.bool legacy) => .ok legacy
  | some other => .error (.configuration (.legacyNotBool other))

def ofFlatFields (fields : List (String × Json)) : Traced RuleConfig := do
  let values := fields.filter fun field => !metaFields.contains field.1
  Section.checkTexts values
  let legacy ← legacyField fields
  let profileName ← textField fields "profile"
  let name ← textField fields "name"
  let profile ← Profile.find (profileName.getD "")
  ofProfile profile (values.map fun (key, value) => (key, Section.textOf? value))
    (name.getD "") legacy

/-! ## The form with sections -/

/-- The fields of the form with sections that are no sections. -/
def plainFields : List String := ["name", "policy", "profile"]

/-- The axes in the order in which their sections are read, which is that of their names. -/
def readingOrder : List Axis := [.branch, .prDestination, .prOrigin, .tag]

def readSections (fields : List (String × Json)) : List Axis → Except Failure (List (Axis × Section))
  | [] => .ok []
  | axis :: rest =>
    match Json.lookup? fields axis.name with
    | none => readSections fields rest
    | some value => do
      let texts ← Section.ofJson value
      return (axis, texts) :: (← readSections fields rest)

def ofSectionFields (fields : List (String × Json)) : Except Failure RuleConfig :=
  match Section.unknownNames (plainFields ++ Axis.all.map Axis.name) (fields.map (·.1)) with
  | [] => do
    let policy ← Policy.ofJson ((Json.lookup? fields "policy").getD (.text Policy.wildcard.name))
    let sections ← readSections fields readingOrder
    let name ← textField fields "name"
    let profile ← textField fields "profile"
    return ⟨policy, sections, name.getD "", profile⟩
  | unknown => .error (.configuration (.unknownRuleFields unknown))

def hasSection (fields : List (String × Json)) : Bool :=
  Axis.all.any fun axis => (Json.lookup? fields axis.name).isSome

def ofJson (value : Json) : Traced RuleConfig :=
  match value with
  | .object fields =>
    if (Json.lookup? fields "profile").isSome && !hasSection fields then ofFlatFields fields
    else .ofResult (ofSectionFields fields)
  | other => .ofResult (.error (.configuration (.ruleNotObject other)))

/-! ## Checks and short forms -/

def check (value : Json) : Traced Verdict :=
  let built : Traced Rule := do
    let config ← ofJson value
    config.build
  match built.result with
  | .ok _ => ⟨.ok .success, built.events⟩
  | .error (.configuration cause) => ⟨.ok (.failure cause.message), built.events⟩
  | .error failure => ⟨.error failure, built.events⟩

end RuleConfig

namespace Rule

def given {α : Type} (texts : Axis → Option α) (toSection : α → Section) :
    List (Axis × Section) :=
  Axis.all.filterMap fun axis => (texts axis).map fun value => (axis, toSection value)

def ofWildcards (name : String) (lists : Axis → Option (Option String × Option String)) :
    Except Failure Rule :=
  RuleConfig.build
    ⟨.wildcard, given lists fun texts => .ofWildcards texts.1 texts.2, name, none⟩

def ofRegexes (name : String) (regexes : Axis → Option String) : Except Failure Rule :=
  RuleConfig.build ⟨.regex, given regexes fun regex => .ofRegex (some regex), name, none⟩

end Rule

end RefFilter
