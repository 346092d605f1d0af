import RefFilter.Proofs.Service.Startup

/-! # The health of the application

Asked for its health, the application reports how it was started: the file that was asked for last,
whether a start ever succeeded, and why the latest bad file was rejected. Each of the three is kept
until a start has something new to say of it, so after a run each is found in the latest start that
does. Requests have no part in this, whatever they install or remove.
-/

namespace RefFilter.Service

open FilterSetConfig

def healthPath : String := "/api/health"

/-- Asked for the health of the application, a state reports the file that was asked for, whether a
start succeeded, and an error. With an error it is degraded. -/
def State.Reports (state : State) (path : Option String) (loaded : Bool) (error : Option String) :
    Prop :=
  ∀ body, (state.respond ⟨"GET", healthPath, body⟩).2.1 =
    .okay (.object [("status", .text (if error.isSome then "degraded" else "ok")),
      ("version", .text version),
      ("startup_config", .object [("config_path", .ofText? path), ("loaded", .bool loaded),
        ("error", .ofText? error)])])

namespace Step

def file? : Step → Option String
  | .start path _ => some path
  | .request _ => none

/-- The message with which a start is rejected, if it is: no configuration can be loaded from the
file, or none that builds a filter set, for a cause that has this wording. -/
def rejection? : Step → Option String
  | .start path file =>
    match attempt (load path file).result with
    | .error (.configuration cause) => some cause.message
    | _ => none
  | .request _ => none

def succeeds : Step → StepResult → Bool
  | .start _ _, .started (.ok success) => success
  | _, _ => false

theorem succeeds_iff {step : Step} {result : StepResult} :
    step.succeeds result = true ↔
      ∃ path file, step = .start path file ∧ result = .started (.ok true) := by
  cases step with
  | request asked => simp [succeeds]
  | start path file =>
      cases result with
      | replied reply => simp [succeeds]
      | started outcome => cases outcome <;> simp [succeeds]

end Step

/-- What the latest of the steps that have such a part has. -/
def latest? {α : Type} (part : Step → Option α) (steps : List Step) : Option α :=
  steps.reverse.findSome? part

theorem latest?_append {α : Type} (part : Step → Option α) (steps : List Step) (step : Step) :
    latest? part (steps ++ [step]) = (part step).or (latest? part steps) := by
  rw [latest?, List.reverse_append, List.findSome?_append, List.reverse_singleton,
    List.findSome?_singleton]
  rfl

namespace State

/-! ## Steps -/

/-- The state after asking for a file from which nothing came. -/
def asked (state : State) (path : String) : State :=
  { state with startup := { state.startup with path := some path } }

theorem startup_installRead (state : State) (read : Traced FilterSetConfig) :
    (state.installRead read).1.startup = state.startup := by
  rcases installRead_cases read with ⟨config, filters, hread, hbuild⟩ | ⟨failure, events, hinstall⟩
  · rw [installRead_of_build hread hbuild]
  · rw [hinstall]

theorem startup_putFilters (state : State) (body : Option Json) :
    (state.putFilters body).1.startup = state.startup := by
  unfold putFilters
  cases rulesBody body with
  | error errors => rfl
  | ok rules =>
      have hinstall := state.startup_installRead (ofJson (.object [("rules", .list rules)]))
      dsimp only
      split <;> exact hinstall

/-- No request changes what is remembered of the start. -/
theorem startup_respond (state : State) (request : Request) :
    (state.respond request).1.startup = state.startup := by
  rw [respond]
  cases routes.lookup (request.method, request.path) with
  | none =>
      dsimp only
      split <;> rfl
  | some endpoint =>
      cases endpoint with
      | putFilters => exact state.startup_putFilters request.body
      | _ => rfl

/-- A start from a file succeeds, or it is rejected, or its failure is passed on and only the path
is remembered. -/
theorem start_cases (state : State) (path : String) (bytes : List UInt8) :
    let started := state.start path (some bytes)
    let rejection := (Step.start path (some bytes)).rejection?
    (started.2.1 = .ok true ∧ rejection = none ∧
        started.1.startup = ⟨some path, true, state.startup.error⟩) ∨
      (∃ message, started.2.1 = .ok false ∧ rejection = some message ∧
        started.1.startup = ⟨some path, state.startup.loaded, some message⟩) ∨
      ∃ failure, started.2.1 = .error failure ∧ rejection = none ∧
        started.1 = state.asked path := by
  intro started rejection
  rcases attempt_cases (load path (some bytes)).result with
    ⟨config, filters, h⟩ | ⟨cause, h⟩ | ⟨failure, h, hnot⟩
  · obtain ⟨events, hstart⟩ := start_of_ok h state
    have hrejection : rejection = none := by simp only [rejection, Step.rejection?, h]
    rw [show started = _ from hstart]
    exact Or.inl ⟨rfl, hrejection, rfl⟩
  · obtain ⟨events, hstart⟩ := start_of_rejected h state
    have hrejection : rejection = some cause.message := by
      simp only [rejection, Step.rejection?, h]
    rw [show started = _ from hstart]
    exact Or.inr (Or.inl ⟨cause.message, rfl, hrejection, rfl⟩)
  · obtain ⟨events, hstart⟩ := start_of_stopped h hnot state
    have hrejection : rejection = none := by
      simp only [rejection, Step.rejection?, h]
      split
      · next heq => exact absurd (Except.error.inj heq) (hnot _)
      · rfl
    rw [show started = _ from hstart]
    exact Or.inr (Or.inr ⟨failure, rfl, hrejection, rfl⟩)

/-- A start from a file reports that it did not succeed exactly if it is rejected. -/
theorem start_eq_false_iff (state : State) (path : String) (bytes : List UInt8) :
    (state.start path (some bytes)).2.1 = .ok false ↔
      (Step.start path (some bytes)).rejection? ≠ none := by
  rcases state.start_cases path bytes with
    ⟨hstart, hrejection, -⟩ | ⟨message, hstart, hrejection, -⟩ | ⟨failure, hstart, hrejection, -⟩ <;>
    simp [hstart, hrejection]

/-- A start without a file, or one whose failure is passed on, leaves nothing but the path. -/
theorem start_eq_asked (state : State) (path : String) (file : Option (List UInt8))
    (h : file = none ∨ ∃ failure, (state.start path file).2.1 = .error failure) :
    (state.start path file).1 = state.asked path := by
  cases file with
  | none => rfl
  | some bytes =>
      obtain ⟨failure, hfailure⟩ : ∃ failure,
        (state.start path (some bytes)).2.1 = .error failure := by simpa using h
      rcases state.start_cases path bytes with
        ⟨hstart, -⟩ | ⟨message, hstart, -⟩ | ⟨_, -, -, hasked⟩
      · cases hstart.symm.trans hfailure
      · cases hstart.symm.trans hfailure
      · exact hasked

/-- What a step does to the status: a start that succeeds is remembered besides those before it,
and the file and the error are replaced if the step has one. -/
theorem startup_step (state : State) (step : Step) :
    (state.step step).1.startup =
      ⟨step.file?.or state.startup.path,
        state.startup.loaded || step.succeeds (state.step step).2.1,
        step.rejection?.or state.startup.error⟩ := by
  cases step with
  | request request =>
      have hstay : (state.step (.request request)).1.startup = state.startup :=
        state.startup_respond request
      rw [hstay]
      simp [Step.file?, Step.rejection?, Step.succeeds]
  | start path file =>
      cases file with
      | none =>
          have hstart : state.step (.start path none) =
            (state.asked path, .started (.ok false), [.noConfiguration path]) := rfl
          have hrejection : (Step.start path none).rejection? = none := rfl
          simp [hstart, hrejection, Step.file?, Step.succeeds, asked]
      | some bytes =>
          have hstep : (state.step (.start path (some bytes))).1 =
            (state.start path (some bytes)).1 := rfl
          have hresult : (state.step (.start path (some bytes))).2.1 =
            .started (state.start path (some bytes)).2.1 := rfl
          rw [hstep, hresult]
          rcases state.start_cases path bytes with
            ⟨hstart, hrejection, hstatus⟩ | ⟨message, hstart, hrejection, hstatus⟩ |
            ⟨failure, hstart, hrejection, hstatus⟩ <;>
            simp [hstart, hrejection, hstatus, Step.file?, Step.succeeds, asked]

/-! ## Runs -/

/-- After a run the status holds what its starts left. -/
theorem startup_run (steps : List Step) :
    (clean.run steps).1.startup =
      ⟨latest? Step.file? steps,
        (clean.history steps).any fun entry => entry.1.succeeds entry.2,
        latest? Step.rejection? steps⟩ := by
  induction steps using List.reverseRecOn with
  | nil => rfl
  | append_singleton steps step ih =>
      rw [run_append, history_append, startup_step, ih, latest?_append, latest?_append,
        List.any_append]
      simp

theorem reports_startup (state : State) :
    state.Reports state.startup.path state.startup.loaded state.startup.error := by
  obtain ⟨config, filters, path, loaded, error⟩ := state
  intro body
  cases error <;> rfl

theorem latest?_file_eq_none_iff (steps : List Step) :
    latest? Step.file? steps = none ↔ ∀ path file, .start path file ∉ steps := by
  simp only [latest?, List.findSome?_eq_none_iff, List.mem_reverse]
  constructor
  · intro h path file hmem
    cases h _ hmem
  · intro h step hmem
    cases step with
    | start path file => exact absurd hmem (h path file)
    | request request => rfl

theorem any_succeeds_iff (history : List (Step × StepResult)) :
    (history.any fun entry => entry.1.succeeds entry.2) = true ↔
      ∃ path file, (.start path file, .started (.ok true)) ∈ history := by
  simp only [List.any_eq_true, Prod.exists, Step.succeeds_iff]
  constructor
  · intro h
    obtain ⟨_, _, hmem, path, file, rfl, rfl⟩ := h
    exact ⟨path, file, hmem⟩
  · intro h
    obtain ⟨path, file, hmem⟩ := h
    exact ⟨_, _, hmem, path, file, rfl, rfl⟩

/-- After every run the application reports the file that the latest start asked for, and none
exactly if there was no start; that one was loaded exactly if some start reported success; and the
message of the latest start that was rejected, with which it is degraded. In every state a start
from a file reports that it did not succeed exactly if it is rejected; a start without a file, or
one whose failure is passed on, changes nothing but the file that was asked for; and a request
changes nothing of the status. -/
theorem health_reports_latest_starts (steps : List Step) :
    (∃ path loaded error, (clean.run steps).1.Reports path loaded error ∧
      path = latest? Step.file? steps ∧ (path = none ↔ ∀ name file, .start name file ∉ steps) ∧
      (loaded = true ↔
        ∃ name file, (.start name file, .started (.ok true)) ∈ clean.history steps) ∧
      error = latest? Step.rejection? steps) ∧
    ∀ state : State,
      (∀ path bytes, (state.start path (some bytes)).2.1 = .ok false ↔
        (Step.start path (some bytes)).rejection? ≠ none) ∧
      (∀ path file, (file = none ∨ ∃ failure, (state.start path file).2.1 = .error failure) →
        (state.start path file).1 = state.asked path) ∧
      ∀ request, (state.respond request).1.startup = state.startup := by
  have hreports := (clean.run steps).1.reports_startup
  rw [startup_run] at hreports
  refine ⟨⟨_, _, _, hreports, rfl, latest?_file_eq_none_iff steps, any_succeeds_iff _, rfl⟩, ?_⟩
  exact fun state => ⟨state.start_eq_false_iff, state.start_eq_asked, state.startup_respond⟩

/-- Starts from a file that is no document, from the smallest document, and from bytes that are no
text; then the filter set is removed, and there is no file any more. -/
def mixedSteps : List Step :=
  [.start "filters.json" (some [0x5B]), .start "filters.json" (some [0x7B, 0x7D]),
    .start "filters.json" (some [0xFF]), .request ⟨"DELETE", filtersPath, none⟩,
    .start "filters.json" none]

theorem mixedSteps_leave_degraded :
    (clean.run mixedSteps).1.Reports (some "filters.json") true
      (some "Invalid JSON in filters.json: Expecting value: line 1 column 2 (char 1)") ∧
    (clean.start "filters.json" (some [0xFF])).1 = clean.asked "filters.json" := by
  obtain ⟨⟨path, loaded, error, hreports, hpath, -, hloaded, herror⟩, hsteps⟩ :=
    health_reports_latest_starts mixedSteps
  have hfile : latest? Step.file? mixedSteps = some "filters.json" := rfl
  have hrejection : latest? Step.rejection? mixedSteps =
      some "Invalid JSON in filters.json: Expecting value: line 1 column 2 (char 1)" := rfl
  have hsecond : (clean.history mixedSteps)[1]? =
      some (.start "filters.json" (some [0x7B, 0x7D]), .started (.ok true)) := rfl
  rw [hpath, hfile, hloaded.2 ⟨_, _, List.mem_of_getElem? hsecond⟩, herror, hrejection] at hreports
  exact ⟨hreports, (hsteps clean).2.1 _ _ (Or.inr ⟨_, rfl⟩)⟩

end State

end RefFilter.Service
