import RefFilter.Profile.Basic

/-! # The profiles

The fixed list of profiles, and the search for one by its name or its other name, whatever the case
and the white space around it.
-/

namespace RefFilter.Profile

open Text

def branchLists : AxisFields := ⟨"branchIncludes", some "branchExcludes"⟩

def tagLists : AxisFields := ⟨"tagIncludes", some "tagExcludes"⟩

def prOriginLists : AxisFields := ⟨"prOriginIncludes", some "prOriginExcludes"⟩

def prDestinationLists : AxisFields := ⟨"prDestinationIncludes", some "prDestinationExcludes"⟩

/-- Two lists without a word for their axis. -/
def headLists : AxisFields := ⟨"includes", some "excludes"⟩

def builtin : List Profile :=
  [
    { name := "wildcard"
      symbol := some "WildcardSCMFilter"
      policy := .wildcard
      axes := [(.branch, branchLists), (.tag, tagLists),
        (.prOrigin, prOriginLists), (.prDestination, prDestinationLists)]
      description := "Branches, tags, and change request origin and destination"
      legacyDefaults := [] },
    { name := "wildcard_branch"
      symbol := some "WildcardSCMBranchFilter"
      policy := .wildcard
      axes := [(.branch, branchLists)]
      description := "Branches only"
      legacyDefaults := [] },
    { name := "wildcard_tag"
      symbol := some "WildcardSCMTagFilter"
      policy := .wildcard
      axes := [(.tag, tagLists)]
      description := "Tags only"
      legacyDefaults := [] },
    { name := "wildcard_pr_origin"
      symbol := some "WildcardSCMPROriginFilter"
      policy := .wildcard
      axes := [(.prOrigin, prOriginLists)]
      description := "Change requests by origin branch"
      legacyDefaults := [] },
    { name := "wildcard_pr_destination"
      symbol := some "WildcardSCMPRDestinationFilter"
      policy := .wildcard
      axes := [(.prDestination, prDestinationLists)]
      description := "Change requests by destination branch"
      legacyDefaults := [] },
    { name := "wildcard_head_with_pr"
      symbol := some "headWildcardFilterWithPR"
      policy := .wildcard
      axes := [(.branch, headLists), (.tag, tagLists), (.prDestination, ⟨"prDestination", none⟩)]
      description := "Branches and tags, change requests by destination branch"
      legacyDefaults := [("tagExcludes", "*"), ("prDestination", "development")] },
    { name := "wildcard_head_with_pr_origin"
      symbol := some "headWildcardFilterWithPRFromOrigin"
      policy := .wildcard
      axes := [(.branch, headLists), (.tag, tagLists), (.prOrigin, headLists)]
      description := "Branches and tags, change requests by origin using the branch lists"
      legacyDefaults := [("tagExcludes", "*")] },
    { name := "regex"
      symbol := some "RegexSCMFilter"
      policy := .regex
      axes := [(.branch, ⟨"branchRegex", none⟩), (.tag, ⟨"tagRegex", none⟩),
        (.prOrigin, ⟨"prOriginRegex", none⟩), (.prDestination, ⟨"prDestinationRegex", none⟩)]
      description := "Branches, tags, and change request origin and destination"
      legacyDefaults := [] },
    { name := "regex_branch"
      symbol := some "RegexSCMBranchFilter"
      policy := .regex
      axes := [(.branch, ⟨"branchRegex", none⟩)]
      description := "Branches only"
      legacyDefaults := [] },
    { name := "regex_tag"
      symbol := some "RegexSCMTagFilter"
      policy := .regex
      axes := [(.tag, ⟨"tagRegex", none⟩)]
      description := "Tags only"
      legacyDefaults := [] },
    { name := "regex_pr_origin"
      symbol := none
      policy := .regex
      axes := [(.prOrigin, ⟨"prOriginRegex", none⟩)]
      description := "Change requests by origin branch"
      legacyDefaults := [] },
    { name := "regex_pr_destination"
      symbol := some "RegexSCMPRDestinationFilter"
      policy := .regex
      axes := [(.prDestination, ⟨"prDestinationRegex", none⟩)]
      description := "Change requests by destination branch"
      legacyDefaults := [] },
    { name := "regex_head_with_pr"
      symbol := some "headRegexFilterWithPR"
      policy := .regex
      axes := [(.branch, ⟨"regex", none⟩), (.tag, ⟨"tagRegex", none⟩), (.prDestination, ⟨"regex", none⟩)]
      description := "Branches and tags, change requests by destination using the branch regex"
      legacyDefaults := [("tagRegex", "(?!.*)")] }]

/-- The names that a profile is found by, in lower case. -/
def keys (profile : Profile) : List String :=
  toLower profile.name :: (profile.symbol.map toLower).toList

def find? (name : String) : Option Profile :=
  builtin.find? fun profile => profile.keys.contains (toLower (trim name))

def find (name : String) : Except Failure Profile :=
  match find? name with
  | some profile => .ok profile
  | none => .error (.configuration (.unknownProfile name (builtin.map (·.name))))

def ofJson : Json → Except Failure Profile
  | .text name => find name
  | other => .error (.configuration (.profileNotText other))

end RefFilter.Profile
