import RefFilter.Config.RuleConfig
import RefFilter.FilterSet
import RefFilter.Json.Reader
import RefFilter.Json.Writer

/-! # Filter-set configurations

The configuration of a filter set is a list of rule configurations. It is kept in a file as a
document; a file is its bytes, or nothing if there is no such file.
-/

namespace RefFilter

open Text

structure FilterSetConfig where
  rules : List RuleConfig
deriving Repr, DecidableEq

namespace FilterSetConfig

def ordered (config : FilterSetConfig) : FilterSetConfig := ⟨config.rules.map (·.ordered)⟩

def toJson (config : FilterSetConfig) : Json :=
  .object [("rules", .list (config.rules.map RuleConfig.toJson))]

def readRules : List Json → Traced (List RuleConfig)
  | [] => return []
  | value :: rest => do
    let rule ← RuleConfig.ofJson value
    return rule :: (← readRules rest)

/-- Read the document of a configuration. Without a list of rules it has none. -/
def ofJson (value : Json) : Traced FilterSetConfig :=
  match value with
  | .object fields =>
    match Json.lookup? fields "rules" with
    | none => return ⟨[]⟩
    | some (.list rules) => return ⟨← readRules rules⟩
    | some _ => noRuleList
  | _ => noRuleList
where
  noRuleList : Traced FilterSetConfig := .ofResult (.error (.configuration .noRuleList))

def buildRules : List RuleConfig → Except Failure (List Rule)
  | [] => .ok []
  | config :: rest => do
    let rule ← config.build
    return rule :: (← buildRules rest)

def build (config : FilterSetConfig) : Except Failure FilterSet :=
  (buildRules config.rules).map FilterSet.mk

/-! ## Files -/

def save (config : FilterSetConfig) : String := config.toJson.writeIndented

def parseDocument (path : String) (text : List Char) : Except Failure Json :=
  match Json.readChars text with
  | .ok value => .ok value
  | .error (.fault cause left) =>
    .error (.configuration (.invalidDocument path (Json.faultReport text cause left)))
  | .error (.tooManyDigits digits) => .error (.tooManyDigits digits)

def readDocument (path : String) (file : Option (List UInt8)) : Except Failure Json :=
  match file with
  | none => .error (.missingFile path)
  | some bytes =>
    match readFileText bytes with
    | .error fault => .error (.undecodable fault)
    | .ok text => parseDocument path text

def load (path : String) (file : Option (List UInt8)) : Traced FilterSetConfig := do
  let value ← readDocument path file
  ofJson value

def loadFilterSet (path : String) (file : Option (List UInt8)) : Traced FilterSet := do
  let config ← load path file
  let filters ← config.build
  Traced.note (.loaded filters.rules.length path)
  return filters

end FilterSetConfig

end RefFilter
