import RefFilter.Proofs.Rule.Compilation
import RefFilter.Service.Handler

/-! # What is installed

A step of the service installs a configuration with the filter set that it builds, removes both, or
leaves both as they are, and which of these it does is the same in every state. So what is installed
after a run is what the latest installation put there, unless it was removed since, and nothing of
the steps before and between is left in the answers that depend on it.
-/

namespace RefFilter.Service

def filtersPath : String := "/api/headfilter/filters"

def evaluatePath : String := "/api/headfilter/filters/evaluate"

def State.installed (state : State) : Option FilterSetConfig × Option FilterSet :=
  (state.config, state.filters)

/-- Nothing is installed, or a configuration with the filter set that it builds. -/
def State.Coherent (state : State) : Prop :=
  state.installed = (none, none) ∨
    ∃ config filters, state.installed = (some config, some filters) ∧ config.build = .ok filters

namespace Step

/-- A step with its result is an installation: a request to install that was answered with 200, or
a start that reported success. -/
def installs : Step → StepResult → Bool
  | .request asked, .replied (.answer status _) =>
    asked.method == "PUT" && asked.path == filtersPath && status == 200
  | .start _ _, .started (.ok success) => success
  | _, _ => false

def removes : Step → Bool
  | .request asked => asked.method == "DELETE" && asked.path == filtersPath
  | .start _ _ => false

end Step

namespace State

/-! ## Installing -/

theorem installRead_of_build {read : Traced FilterSetConfig} {config : FilterSetConfig}
    {filters : FilterSet} (hread : read.result = .ok config) (hbuild : config.build = .ok filters)
    (state : State) :
    state.installRead read =
      ({ state with config := some config, filters := some filters },
        ⟨.ok (config, filters), read.events ++ [.installed filters.rules.length]⟩) := by
  rw [installRead, hread]
  simp only [install, hbuild]
  rfl

/-- What was read is installed if it builds; otherwise nothing changes. -/
theorem installRead_cases (read : Traced FilterSetConfig) :
    (∃ config filters, read.result = .ok config ∧ config.build = .ok filters) ∨
      ∃ failure events, ∀ state : State,
        state.installRead read = (state, ⟨.error failure, events⟩) := by
  cases hread : read.result with
  | error failure =>
      refine Or.inr ⟨failure, read.events, ?_⟩
      intro state
      rw [installRead, hread]
  | ok config =>
      cases hbuild : config.build with
      | error failure =>
          refine Or.inr ⟨failure, read.events ++ [], ?_⟩
          intro state
          rw [installRead, hread]
          simp only [install, hbuild]
          rfl
      | ok filters => exact Or.inl ⟨config, filters, rfl, hbuild⟩

/-! ## What a step does -/

/-- In every state the step installs the same, or removes, or leaves what is installed. -/
def Effect (step : Step) : Prop :=
  (∃ config filters, config.build = .ok filters ∧ step.removes = false ∧
    ∀ state : State, step.installs (state.step step).2.1 = true ∧
      (state.step step).1.installed = (some config, some filters)) ∨
  (step.removes = true ∧ ∀ state : State, (state.step step).1.installed = (none, none)) ∨
  step.removes = false ∧ ∀ state : State, step.installs (state.step step).2.1 = false ∧
    (state.step step).1.installed = state.installed

theorem effect_start (path : String) (file : Option (List UInt8)) : Effect (.start path file) := by
  cases file with
  | none => exact Or.inr (Or.inr ⟨rfl, fun state => ⟨rfl, rfl⟩⟩)
  | some bytes =>
      rcases installRead_cases (FilterSetConfig.load path (some bytes)) with
        ⟨config, filters, hread, hbuild⟩ | ⟨failure, events, hinstall⟩
      · refine Or.inl ⟨config, filters, hbuild, rfl, ?_⟩
        intro state
        simp only [step, start, installRead_of_build hread hbuild]
        exact ⟨rfl, rfl⟩
      · refine Or.inr (Or.inr ⟨rfl, ?_⟩)
        intro state
        simp only [step, start, hinstall]
        cases failure <;> exact ⟨rfl, rfl⟩

theorem effect_put (body : Option Json) : Effect (.request ⟨"PUT", filtersPath, body⟩) := by
  have hstep (state : State) : state.step (.request ⟨"PUT", filtersPath, body⟩) =
      ((state.putFilters body).1, .replied (state.putFilters body).2.1,
        (state.putFilters body).2.2) := rfl
  cases hrules : rulesBody body with
  | error errors =>
      refine Or.inr (Or.inr ⟨rfl, ?_⟩)
      intro state
      have hput : state.putFilters body = (state, .refusal errors, []) := by
        simp only [putFilters, hrules]
      rw [hstep, hput]
      exact ⟨rfl, rfl⟩
  | ok rules =>
      rcases installRead_cases (FilterSetConfig.ofJson (.object [("rules", .list rules)])) with
        ⟨config, filters, hread, hbuild⟩ | ⟨failure, events, hinstall⟩
      · refine Or.inl ⟨config, filters, hbuild, rfl, ?_⟩
        intro state
        rw [hstep]
        simp only [putFilters, hrules, installRead_of_build hread hbuild]
        exact ⟨rfl, rfl⟩
      · refine Or.inr (Or.inr ⟨rfl, ?_⟩)
        intro state
        rw [hstep]
        simp only [putFilters, hrules, hinstall]
        cases failure <;> exact ⟨rfl, rfl⟩

theorem effect_delete (body : Option Json) :
    Effect (.request ⟨"DELETE", filtersPath, body⟩) :=
  Or.inr (Or.inl ⟨rfl, fun _ => rfl⟩)

/-- A request that neither installs nor removes leaves the state as it is. -/
theorem respond_other {request : Request}
    (hput : ¬ (request.method = "PUT" ∧ request.path = filtersPath))
    (hdelete : ¬ (request.method = "DELETE" ∧ request.path = filtersPath)) (state : State) :
    (state.respond request).1 = state := by
  rw [respond]
  cases hroute : routes.lookup (request.method, request.path) with
  | none =>
      dsimp only
      split <;> rfl
  | some endpoint =>
      have hmem := mem_of_lookup hroute
      cases endpoint with
      | putFilters => exact absurd (by simpa [routes, filtersPath] using hmem) hput
      | deleteFilters => exact absurd (by simpa [routes, filtersPath] using hmem) hdelete
      | _ => rfl

theorem effect (step : Step) : Effect step := by
  cases step with
  | start path file => exact effect_start path file
  | request asked =>
      by_cases hput : asked.method = "PUT" ∧ asked.path = filtersPath
      · obtain ⟨method, path, body⟩ := asked
        obtain ⟨rfl, rfl⟩ := hput
        exact effect_put body
      · by_cases hdelete : asked.method = "DELETE" ∧ asked.path = filtersPath
        · obtain ⟨method, path, body⟩ := asked
          obtain ⟨rfl, rfl⟩ := hdelete
          exact effect_delete body
        · refine Or.inr (Or.inr ⟨by simpa [Step.removes] using hdelete, ?_⟩)
          intro state
          have hstay : (state.step (.request asked)).1 = state := respond_other hput hdelete state
          refine ⟨?_, by rw [hstay]⟩
          -- Whatever the answer is, its request is none to install.
          cases hresult : (state.step (.request asked)).2.1 with
          | started result => rfl
          | replied reply =>
              cases reply with
              | answer status body =>
                  have hfalse : (asked.method == "PUT" && asked.path == filtersPath) = false := by
                    simpa using hput
                  simp only [Step.installs, hfalse, Bool.false_and]
              | refusal errors => rfl
              | crash => rfl

/-! ## Runs -/

theorem run_append (state : State) (steps : List Step) (step : Step) :
    state.run (steps ++ [step]) =
      (((state.run steps).1.step step).1,
        (state.run steps).2 ++ [((state.run steps).1.step step).2]) := by
  induction steps generalizing state with
  | nil => rfl
  | cons first rest ih =>
      rw [List.cons_append, run]
      simp only [ih]
      rfl

theorem length_run (state : State) (steps : List Step) :
    (state.run steps).2.length = steps.length := by
  induction steps generalizing state with
  | nil => rfl
  | cons first rest ih =>
      rw [run]
      simp [ih]

def history (state : State) (steps : List Step) : List (Step × StepResult) :=
  steps.zip ((state.run steps).2.map Prod.fst)

theorem history_append (state : State) (steps : List Step) (step : Step) :
    state.history (steps ++ [step]) =
      state.history steps ++ [(step, ((state.run steps).1.step step).2.1)] := by
  rw [history, history, run_append, List.map_append, List.zip_append]
  · rfl
  · rw [List.length_map, length_run]

/-- The latest installation, unless what it installed was removed since. -/
def lastInstallation (history : List (Step × StepResult)) : Option Step :=
  match history.reverse.find? fun entry => entry.1.installs entry.2 || entry.1.removes with
  | none => none
  | some (step, _) => if step.removes then none else some step

theorem lastInstallation_append (history : List (Step × StepResult)) (step : Step)
    (result : StepResult) :
    lastInstallation (history ++ [(step, result)]) =
      if step.removes then none
      else if step.installs result then some step
      else lastInstallation history := by
  rw [lastInstallation, List.reverse_append, List.reverse_singleton, List.singleton_append,
    List.find?_cons]
  cases hremoves : step.removes with
  | true => simp [hremoves]
  | false =>
      cases hinstalls : step.installs result with
      | true => simp [hremoves]
      | false => simp [lastInstallation]

/-- The state of a service on which only the step in force was taken, if there is one. -/
def fresh (kept : Option Step) : State := (clean.run kept.toList).1

/-- After a run there is installed what the latest installation alone installs. -/
theorem installed_run (steps : List Step) :
    (clean.run steps).1.installed =
      (fresh (lastInstallation (clean.history steps))).installed := by
  induction steps using List.reverseRecOn with
  | nil => rfl
  | append_singleton steps step ih =>
      rw [run_append, history_append, lastInstallation_append]
      -- Only a step that leaves what is installed depends on the steps before it.
      rcases effect step with
        ⟨config, filters, -, hremoves, h⟩ | ⟨hremoves, h⟩ | ⟨hremoves, h⟩
      · rw [hremoves, (h _).1]
        exact (h _).2.trans (h clean).2.symm
      · rw [hremoves]
        exact h _
      · rw [hremoves, (h _).1]
        exact (h _).2.trans ih

theorem coherent_run (steps : List Step) : (clean.run steps).1.Coherent := by
  induction steps using List.reverseRecOn with
  | nil => exact Or.inl rfl
  | append_singleton steps step ih =>
      rw [run_append]
      rcases effect step with ⟨config, filters, hbuild, -, h⟩ | ⟨-, h⟩ | ⟨-, h⟩
      · exact Or.inr ⟨config, filters, (h _).2, hbuild⟩
      · exact Or.inl (h _)
      · rw [Coherent, (h _).2]
        exact ih

/-! ## Answers -/

theorem getFilters_of_installed {state other : State} (h : state.installed = other.installed) :
    state.getFilters = other.getFilters := by
  obtain ⟨hconfig, hfilters⟩ := Prod.mk.inj h
  rw [getFilters, getFilters, hconfig, hfilters]

theorem evaluate_of_installed {state other : State} (h : state.installed = other.installed)
    (body : Option Json) : state.evaluate body = other.evaluate body := by
  obtain ⟨-, hfilters⟩ := Prod.mk.inj h
  rw [evaluate, evaluate, hfilters]

/-- After every run the installed filter set is the one that the installed configuration builds. A
further step changes them only if it installs or removes. Requests to show what is installed and
requests for decisions get the answers that they get from a service on which only the latest
installation was made, or none if what it installed was removed since. -/
theorem run_keeps_latest_installation (steps : List Step) :
    (clean.run steps).1.Coherent ∧
    (∀ step, ((clean.run steps).1.step step).1.installed = (clean.run steps).1.installed ∨
      step.installs ((clean.run steps).1.step step).2.1 = true ∨ step.removes = true) ∧
    ∀ body,
      ((clean.run steps).1.respond ⟨"GET", filtersPath, body⟩).2 =
        ((fresh (lastInstallation (clean.history steps))).respond ⟨"GET", filtersPath, body⟩).2 ∧
      ((clean.run steps).1.respond ⟨"POST", evaluatePath, body⟩).2 =
        ((fresh (lastInstallation (clean.history steps))).respond
          ⟨"POST", evaluatePath, body⟩).2 := by
  have hinstalled := installed_run steps
  refine ⟨coherent_run steps, ?_, ?_⟩
  · intro step
    rcases effect step with ⟨config, filters, -, -, h⟩ | ⟨hremoves, -⟩ | ⟨-, h⟩
    · exact Or.inr (Or.inl (h _).1)
    · exact Or.inr (Or.inr hremoves)
    · exact Or.inl (h _).2
  · intro body
    constructor
    · exact congrArg (·, []) (getFilters_of_installed hinstalled)
    · exact evaluate_of_installed hinstalled body

end State

end RefFilter.Service
