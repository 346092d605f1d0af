import RefFilter.Rule.Basic
import RefFilter.Log
import RefFilter.Decimal.Binary64

/-! # Filter sets

A filter set is a list of rules. It excludes a reference that one of its rules excludes, and it
decides as the first of those rules does. Filtering a batch keeps the order of the references and
notes every exclusion, and then the counts.
-/

namespace RefFilter

open Decimal

/-- Rules, in the order in which they are asked. -/
structure FilterSet where
  rules : List Rule
deriving Repr

/-- The outcome of filtering a batch: the members that stay, those that are excluded, and the
decisions on the excluded ones, one for one. -/
structure Report (α : Type) where
  admitted : List α
  excluded : List α
  decisions : List Decision
deriving Repr, DecidableEq

namespace Report

variable {α : Type}

def empty : Report α := ⟨[], [], []⟩

/-- Put a member at the end of its side, by the decision on it. -/
def add (report : Report α) (member : α) (decision : Decision) : Report α :=
  if decision.excluded then
    { report with
      excluded := report.excluded ++ [member], decisions := report.decisions ++ [decision] }
  else { report with admitted := report.admitted ++ [member] }

def total (report : Report α) : Nat := report.admitted.length + report.excluded.length

/-- The fraction of the members that are excluded, which is zero for an empty batch. -/
def ratio (report : Report α) : Binary64 :=
  if report.total = 0 then .zero else .ofRatio false report.excluded.length report.total

def toJson (report : Report Reference) : Json :=
  .object [("total", .int report.total), ("admitted_count", .int report.admitted.length),
    ("excluded_count", .int report.excluded.length), ("exclusion_ratio", .float report.ratio),
    ("admitted", .list (report.admitted.map Reference.toJson)),
    ("excluded", .list ((report.excluded.zip report.decisions).map fun (reference, decision) =>
      .object [("reference", reference.toJson), ("decision", decision.toJson)]))]

end Report

namespace FilterSet

/-- The decision on a reference that no rule excludes. -/
def admission : Decision := ⟨false, "", "no rule excludes this reference", none, none⟩

def excludes (filters : FilterSet) (reference : Reference) : Bool :=
  filters.rules.any (·.excludes reference)

/-- The decision of the first rule that excludes a reference, or its admission. -/
def decide (filters : FilterSet) (reference : Reference) : Decision :=
  ((filters.rules.map (·.decide reference)).find? (·.excluded)).getD admission

def eventsOf (filters : FilterSet) (reference : Reference) : List Event :=
  let decision := filters.decide reference
  if decision.excluded then
    [.excluded reference.category reference.name decision.reason]
  else []

/-- Split a batch whose members stand for references, one member after the other. -/
def splitBy {α : Type} (filters : FilterSet) (reference : α → Reference) (members : List α) :
    Report α :=
  members.foldl (fun report member => report.add member (filters.decide (reference member))) .empty

def filterBy {α : Type} (filters : FilterSet) (reference : α → Reference) (members : List α) :
    Report α × List Event :=
  let report := filters.splitBy reference members
  (report, members.flatMap (fun member => filters.eventsOf (reference member)) ++
    [.filtered report.total report.admitted.length report.excluded.length])

def filter (filters : FilterSet) (references : List Reference) : Report Reference × List Event :=
  filters.filterBy id references

def toJson (filters : FilterSet) : Json :=
  .object [("rules", .list (filters.rules.map Rule.toJson))]

end FilterSet

end RefFilter
