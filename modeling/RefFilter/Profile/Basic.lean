import RefFilter.Rule.Basic

/-! # Profiles

A profile is a layout of flat configuration fields over axes: it tells which axes a rule guards and
which fields hold the patterns of each. Axes may share fields. Some profiles have values for blank
fields that are used on request.
-/

namespace RefFilter

structure AxisFields where
  includes : String
  excludes : Option String
deriving Repr, DecidableEq

def AxisFields.names (fields : AxisFields) : List String :=
  fields.includes :: fields.excludes.toList

def AxisFields.toJson (fields : AxisFields) : Json :=
  .object [("include", .text fields.includes), ("exclude", .ofText? fields.excludes)]

/-- A layout of fields over axes. -/
structure Profile where
  name : String
  symbol : Option String
  policy : Policy
  axes : List (Axis × AxisFields)
  description : String
  /-- Values for blank fields, used on request. -/
  legacyDefaults : List (String × String)
deriving Repr, DecidableEq

namespace Profile

/-- The names of all fields, each where it first comes. -/
def fieldNames (profile : Profile) : List String :=
  (profile.axes.flatMap fun entry => entry.2.names).foldl
    (fun names name => if names.contains name then names else names ++ [name]) []

def toJson (profile : Profile) : Json :=
  .object [("name", .text profile.name), ("symbol", .ofText? profile.symbol),
    ("policy", .text profile.policy.name), ("description", .text profile.description),
    ("axes", .object (profile.axes.map fun (axis, fields) => (axis.name, fields.toJson))),
    ("fields", .list (profile.fieldNames.map .text)),
    ("legacy_defaults",
      .object (profile.legacyDefaults.map fun (name, value) => (name, .text value)))]

end Profile

end RefFilter
