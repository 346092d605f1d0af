import RefFilter.Rule.Basic

/-! # Building rules

A rule is built from a policy and a pattern pair for each axis. What is wrong is found in a fixed
order: that there is no axis, then the policy, then for each entry its axis and its pair, and last
the expressions. A later entry for an axis takes the place of an earlier one.
-/

namespace RefFilter

namespace Pair

/-- A pair has patterns of the dialect of a policy, and as many as the policy takes. -/
def Fits (policy : Policy) (pair : Pair) : Prop :=
  pair.includes.dialect = policy.dialect ∧
    match policy with
    | .regex => pair.excludes = none
    | .wildcard => ∃ source, pair.excludes = some ⟨source, .wildcard⟩

theorem check_eq_ok_iff {policy : Policy} {axis : Axis} {pair : Pair} :
    pair.check policy axis = .ok () ↔ pair.Fits policy := by
  rcases pair with ⟨⟨source, dialect⟩, _ | ⟨other, dialect'⟩⟩ <;>
    cases policy <;> cases dialect <;> try cases dialect'
  all_goals simp [check, Fits, Policy.dialect]

end Pair

theorem Guard.policy_of_fits {policy : Policy} {pair : Pair} {guard : Guard}
    (fits : pair.Fits policy) (h : Guard.ofPair pair = .ok guard) : guard.policy = policy := by
  cases policy with
  | regex =>
    obtain ⟨-, none⟩ := fits
    simp only at none
    simp only [Guard.ofPair, none] at h
    cases hm : Matcher.ofRegex pair.includes.source with
    | error failure => simp [hm, Except.map] at h
    | ok matcher =>
      simp only [hm, Except.map, Except.ok.injEq] at h
      simp [← h, Guard.policy]
  | wildcard =>
    obtain ⟨-, source, some⟩ := fits
    simp only [Guard.ofPair, some, Except.ok.injEq] at h
    simp [← h, Guard.policy]

namespace Rule

/-! ## Entries -/

/-- Put the value of an axis at the place of the one it replaces, or at the end. -/
def place {α : Type} (entries : List (Axis × α)) (axis : Axis) (value : α) : List (Axis × α) :=
  match entries with
  | [] => [(axis, value)]
  | (other, old) :: rest =>
    if other = axis then (other, value) :: rest else (other, old) :: place rest axis value

/-- The entries with one value for each axis. -/
def merge {α : Type} (entries : List (Axis × α)) : List (Axis × α) :=
  entries.foldl (fun done entry => place done entry.1 entry.2) []

def readEntries (policy : Policy) : List (String × Pair) → Except Failure (List (Axis × Pair))
  | [] => .ok []
  | (name, pair) :: rest =>
    match Axis.ofName? name with
    | none => .error (.configuration (.unknownAxis name))
    | some axis =>
      match pair.check policy axis with
      | .error failure => .error failure
      | .ok () => (readEntries policy rest).map ((axis, pair) :: ·)

def compileEntries : List (Axis × Pair) → Except Failure (List (Axis × Guard))
  | [] => .ok []
  | (axis, pair) :: rest =>
    match Guard.ofPair pair with
    | .error failure => .error failure
    | .ok guard => (compileEntries rest).map ((axis, guard) :: ·)

section Entries

variable {α : Type}

theorem mem_place {entries : List (Axis × α)} {axis : Axis} {value : α} {entry : Axis × α}
    (h : entry ∈ place entries axis value) : entry ∈ entries ∨ entry = (axis, value) := by
  induction entries with
  | nil => simpa [place] using h
  | cons head rest ih =>
    unfold place at h
    split at h
    · rename_i same
      rcases List.mem_cons.1 h with h | h
      · exact .inr (by rw [h, same])
      · exact .inl (List.mem_cons_of_mem _ h)
    · rcases List.mem_cons.1 h with h | h
      · exact .inl (by simp [h])
      · exact (ih h).imp_left (List.mem_cons_of_mem _)

theorem place_ne_nil (entries : List (Axis × α)) (axis : Axis) (value : α) :
    place entries axis value ≠ [] := by
  cases entries with
  | nil => simp [place]
  | cons head rest => unfold place; split <;> simp

theorem keys_place (entries : List (Axis × α)) (axis : Axis) (value : α) :
    (place entries axis value).map Prod.fst =
      if axis ∈ entries.map Prod.fst then entries.map Prod.fst
      else entries.map Prod.fst ++ [axis] := by
  induction entries with
  | nil => simp [place]
  | cons head rest ih =>
    unfold place
    by_cases same : head.1 = axis
    · simp [same]
    · have other : axis ≠ head.1 := fun h => same h.symm
      simp only [same, if_false, List.map_cons, ih, List.mem_cons, other, false_or]
      split <;> simp

theorem nodup_place {entries : List (Axis × α)} (axis : Axis) (value : α)
    (h : (entries.map Prod.fst).Nodup) : ((place entries axis value).map Prod.fst).Nodup := by
  rw [keys_place]
  split
  · exact h
  · rename_i new
    rw [List.nodup_append]
    exact ⟨h, by simp, fun a ha b hb => by
      rintro rfl
      rw [List.mem_singleton] at hb
      exact new (hb ▸ ha)⟩

private theorem fold_spec (entries done : List (Axis × α))
    (distinct : (done.map Prod.fst).Nodup) :
    let merged := entries.foldl (fun done entry => place done entry.1 entry.2) done
    (merged.map Prod.fst).Nodup ∧ (∀ entry ∈ merged, entry ∈ done ∨ entry ∈ entries) ∧
      (merged = [] → done = [] ∧ entries = []) := by
  induction entries generalizing done with
  | nil => exact ⟨distinct, fun entry h => .inl h, fun h => ⟨h, rfl⟩⟩
  | cons head rest ih =>
    obtain ⟨nodup, mem, nil⟩ := ih (place done head.1 head.2) (nodup_place _ _ distinct)
    refine ⟨nodup, fun entry h => ?_, fun h => absurd (nil h).1 (place_ne_nil _ _ _)⟩
    rcases mem entry h with h | h
    · rcases mem_place h with h | h
      · exact .inl h
      · exact .inr (by simp [h])
    · exact .inr (List.mem_cons_of_mem _ h)

theorem nodup_merge (entries : List (Axis × α)) : ((merge entries).map Prod.fst).Nodup :=
  (fold_spec entries [] (by simp)).1

theorem mem_merge {entries : List (Axis × α)} {entry : Axis × α} (h : entry ∈ merge entries) :
    entry ∈ entries := by
  simpa using (fold_spec entries [] (by simp)).2.1 entry h

theorem merge_ne_nil {entries : List (Axis × α)} (h : entries ≠ []) : merge entries ≠ [] :=
  fun nil => h ((fold_spec entries [] (by simp)).2.2 nil).2

end Entries

theorem fits_of_readEntries {policy : Policy} {entries : List (String × Pair)}
    {pairs : List (Axis × Pair)} (h : readEntries policy entries = .ok pairs) :
    ∀ entry ∈ pairs, entry.2.Fits policy := by
  induction entries generalizing pairs with
  | nil =>
    simp only [readEntries, Except.ok.injEq] at h
    simp [← h]
  | cons head rest ih =>
    obtain ⟨name, pair⟩ := head
    simp only [readEntries] at h
    split at h
    · simp at h
    · split at h
      · simp at h
      · rename_i checked
        cases hr : readEntries policy rest with
        | error failure => simp [hr, Except.map] at h
        | ok others =>
          simp only [hr, Except.map, Except.ok.injEq] at h
          subst h
          intro entry mem
          rcases List.mem_cons.1 mem with mem | mem
          · simpa [mem] using Pair.check_eq_ok_iff.1 checked
          · exact ih hr entry mem

theorem readEntries_ne_nil {policy : Policy} {entries : List (String × Pair)}
    {pairs : List (Axis × Pair)} (h : readEntries policy entries = .ok pairs)
    (some : entries ≠ []) : pairs ≠ [] := by
  cases entries with
  | nil => exact absurd rfl some
  | cons head rest =>
    obtain ⟨name, pair⟩ := head
    simp only [readEntries] at h
    split at h
    · simp at h
    · split at h
      · simp at h
      · cases hr : readEntries policy rest with
        | error failure => simp [hr, Except.map] at h
        | ok others =>
          simp only [hr, Except.map, Except.ok.injEq] at h
          simp [← h]

theorem keys_compileEntries {pairs : List (Axis × Pair)} {guards : List (Axis × Guard)}
    (h : compileEntries pairs = .ok guards) : guards.map Prod.fst = pairs.map Prod.fst := by
  induction pairs generalizing guards with
  | nil =>
    simp only [compileEntries, Except.ok.injEq] at h
    simp [← h]
  | cons head rest ih =>
    obtain ⟨axis, pair⟩ := head
    simp only [compileEntries] at h
    split at h
    · simp at h
    · cases hr : compileEntries rest with
      | error failure => simp [hr, Except.map] at h
      | ok others =>
        simp only [hr, Except.map, Except.ok.injEq] at h
        simp [← h, ih hr]

theorem uniform_of_compileEntries {policy : Policy} {pairs : List (Axis × Pair)}
    {guards : List (Axis × Guard)} (h : compileEntries pairs = .ok guards)
    (fits : ∀ entry ∈ pairs, entry.2.Fits policy) :
    ∀ entry ∈ guards, entry.2.policy = policy := by
  induction pairs generalizing guards with
  | nil =>
    simp only [compileEntries, Except.ok.injEq] at h
    simp [← h]
  | cons head rest ih =>
    obtain ⟨axis, pair⟩ := head
    simp only [compileEntries] at h
    split at h
    · simp at h
    · rename_i guard compiled
      cases hr : compileEntries rest with
      | error failure => simp [hr, Except.map] at h
      | ok others =>
        simp only [hr, Except.map, Except.ok.injEq] at h
        subst h
        intro entry mem
        rcases List.mem_cons.1 mem with mem | mem
        · simpa [mem] using Guard.policy_of_fits (fits (axis, pair) (by simp)) compiled
        · exact ih hr (fun entry h => fits entry (List.mem_cons_of_mem _ h)) entry mem

/-! ## Rules -/

def ofPairs (policy : Policy) (pairs : List (Axis × Pair)) (name : String) (some : pairs ≠ [])
    (fits : ∀ entry ∈ pairs, entry.2.Fits policy) : Except Failure Rule :=
  match compiled : compileEntries (merge pairs) with
  | .error failure => .error failure
  | .ok guards =>
    .ok {
      policy := policy
      guards := guards
      name := name
      nonempty := fun nil => merge_ne_nil some <| by
        simpa [nil] using (keys_compileEntries compiled).symm
      distinct := keys_compileEntries compiled ▸ nodup_merge pairs
      uniform := uniform_of_compileEntries compiled fun entry mem => fits entry (mem_merge mem) }

/-- Build a rule from the name of a policy and the patterns for each axis. -/
def build (policy : Json) (entries : List (String × Pair)) (name : String) :
    Except Failure Rule :=
  if some : entries ≠ [] then
    match Policy.ofJson policy with
    | .error failure => .error failure
    | .ok policy =>
      match read : readEntries policy entries with
      | .error failure => .error failure
      | .ok pairs =>
        ofPairs policy pairs name (readEntries_ne_nil read some) (fits_of_readEntries read)
  else .error (.configuration .noAxis)

end Rule

end RefFilter
