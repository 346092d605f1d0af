import RefFilter.Proofs.Config.Failure
import RefFilter.Proofs.Config.File
import RefFilter.Proofs.Json.Lines
import RefFilter.Proofs.Service.DryRun

/-! # Starting from a file

A start reads the bytes of a file, the document in them and the configuration in that, and builds
and installs the filter set. A request to install takes part in this from the configuration on. So a
start from the text of a document goes as a request with the document as its body. What a start does
not report as a rejection it passes on: bytes that are no text, a number with too many digits, and
limits of expressions.
-/

namespace RefFilter

open Json Regex Text

namespace FilterSetConfig

variable {path : String} {bytes : List UInt8} {config : FilterSetConfig}

/-! ## Files -/

/-- A file holds a configuration: its bytes are the text of the document of one. -/
def HeldIn (bytes : List UInt8) (config : FilterSetConfig) : Prop :=
  ∃ text value, readFileText bytes = .ok text ∧ readChars text = .ok value ∧
    (ofJson value).result = .ok config

/-- A file is out of the reach of its reader: its bytes are no text, or the text has a number with
too many digits. -/
def OutOfReach (bytes : List UInt8) : Prop :=
  (∃ fault, readFileText bytes = .error fault) ∨
    ∃ text digits, readFileText bytes = .ok text ∧
      readChars text = .error (.tooManyDigits digits)

theorem readDocument_of_text {text : List Char} (h : readFileText bytes = .ok text)
    (path : String) : readDocument path (some bytes) = parseDocument path text := by
  rw [readDocument, h]

theorem readDocument_of_fault {fault : ByteFault} (h : readFileText bytes = .error fault)
    (path : String) : readDocument path (some bytes) = .error (.undecodable fault) := by
  rw [readDocument, h]

theorem readDocument_eq_ok_iff {value : Json} :
    readDocument path (some bytes) = .ok value ↔
      ∃ text, readFileText bytes = .ok text ∧ readChars text = .ok value := by
  cases hbytes : readFileText bytes with
  | error fault => simp [readDocument_of_fault hbytes]
  | ok text =>
      rw [readDocument_of_text hbytes, parseDocument]
      cases hdocument : readChars text with
      | ok value => simp [hdocument]
      | error stop => cases stop <;> simp [hdocument]

/-- A file in which no document is read is rejected, or it is out of reach and is not. -/
theorem readDocument_failure {failure : Failure}
    (h : readDocument path (some bytes) = .error failure) :
    (∃ cause, failure = .configuration cause) ∧ ¬ OutOfReach bytes ∨
      (∀ cause, failure ≠ .configuration cause) ∧ OutOfReach bytes := by
  cases hbytes : readFileText bytes with
  | error fault =>
      rw [readDocument_of_fault hbytes] at h
      obtain rfl := Except.error.inj h
      exact Or.inr ⟨by simp, Or.inl ⟨fault, hbytes⟩⟩
  | ok text =>
      rw [readDocument_of_text hbytes, parseDocument] at h
      cases hdocument : readChars text with
      | ok value =>
          rw [hdocument] at h
          cases h
      | error stop =>
          rw [hdocument] at h
          cases stop with
          | fault cause left =>
              obtain rfl := Except.error.inj h
              exact Or.inl ⟨⟨_, rfl⟩, by simp [OutOfReach, hbytes, hdocument]⟩
          | tooManyDigits digits =>
              obtain rfl := Except.error.inj h
              exact Or.inr ⟨by simp, Or.inr ⟨text, digits, hbytes, hdocument⟩⟩

theorem result_load (path : String) (file : Option (List UInt8)) :
    (load path file).result = readDocument path file >>= fun value => (ofJson value).result :=
  Traced.result_bind _ _

theorem load_eq_ok_iff : (load path (some bytes)).result = .ok config ↔ HeldIn bytes config := by
  rw [result_load, bind_eq_ok_iff]
  simp only [readDocument_eq_ok_iff, HeldIn]
  constructor
  · intro h
    obtain ⟨value, ⟨text, hbytes, hdocument⟩, hread⟩ := h
    exact ⟨text, value, hbytes, hdocument, hread⟩
  · intro h
    obtain ⟨text, value, hbytes, hdocument, hread⟩ := h
    exact ⟨value, ⟨text, hbytes, hdocument⟩, hread⟩

/-- A file from which no configuration is loaded is rejected, or it is out of reach and is not. -/
theorem load_failure {failure : Failure} (h : (load path (some bytes)).result = .error failure) :
    (∃ cause, failure = .configuration cause) ∧ ¬ OutOfReach bytes ∨
      (∀ cause, failure ≠ .configuration cause) ∧ OutOfReach bytes := by
  rw [result_load] at h
  cases hdocument : readDocument path (some bytes) with
  | error other =>
      rw [hdocument] at h
      obtain rfl := Except.error.inj h
      exact readDocument_failure hdocument
  | ok value =>
      rw [hdocument] at h
      obtain ⟨text, hbytes, hvalue⟩ := readDocument_eq_ok_iff.1 hdocument
      exact Or.inl ⟨onlyRejects_ofJson value failure h, by simp [OutOfReach, hbytes, hvalue]⟩

/-- A document is read from the file of its text, however the lines of the text end. -/
theorem readDocument_of_chars {text : String} {value : Json}
    (h : readChars text.toList = .ok value) (path : String) :
    readDocument path (some text.toUTF8.toList) = .ok value := by
  have hfile : readFileText text.toUTF8.toList = .ok (unifyLines text.toList) := by
    rw [readFileText, decodeBytes_toUTF8]
    rfl
  exact readDocument_eq_ok_iff.2 ⟨_, hfile, readChars_unifyLines h⟩

/-- The reader of a file does not answer for it: the file is out of its reach, or building the filter
set of the configuration that the file holds stops at a limit. -/
def Unanswered (bytes : List UInt8) : Prop :=
  OutOfReach bytes ∨ ∃ config limit, HeldIn bytes config ∧ config.StopsAt limit

theorem HeldIn.unique {other : FilterSetConfig} (h : HeldIn bytes config)
    (hother : HeldIn bytes other) : config = other := by
  obtain ⟨text, value, hbytes, hdocument, hread⟩ := h
  obtain ⟨_, _, hbytes', hdocument', hread'⟩ := hother
  obtain rfl := Except.ok.inj (hbytes.symm.trans hbytes')
  obtain rfl := Except.ok.inj (hdocument.symm.trans hdocument')
  exact Except.ok.inj (hread.symm.trans hread')

theorem HeldIn.not_outOfReach (h : HeldIn bytes config) : ¬ OutOfReach bytes := by
  obtain ⟨text, value, hbytes, hdocument, -⟩ := h
  simp [OutOfReach, hbytes, hdocument]

theorem wellFormed_of_heldIn (h : HeldIn bytes config) : ∀ rule ∈ config.rules, rule.WellFormed := by
  obtain ⟨text, value, -, -, hread⟩ := h
  exact wellFormed_of_ofJson hread

end FilterSetConfig

namespace Service

open FilterSetConfig

/-! ## Attempts to install -/

def attempt (read : Except Failure FilterSetConfig) : Except Failure (FilterSetConfig × FilterSet) :=
  read >>= fun config => config.build.map (config, ·)

theorem attempt_eq_ok_iff {read : Except Failure FilterSetConfig} {config : FilterSetConfig}
    {filters : FilterSet} :
    attempt read = .ok (config, filters) ↔ read = .ok config ∧ config.build = .ok filters := by
  unfold attempt
  simp only [bind_eq_ok_iff, map_eq_ok_iff, Prod.mk.injEq]
  constructor
  · intro h
    obtain ⟨other, hread, built, hbuild, rfl, rfl⟩ := h
    exact ⟨hread, hbuild⟩
  · intro h
    exact ⟨config, h.1, filters, h.2, rfl, rfl⟩

/-- The three outcomes: something is installed, it is rejected, or the attempt stops. -/
theorem attempt_cases (read : Except Failure FilterSetConfig) :
    (∃ config filters, attempt read = .ok (config, filters)) ∨
      (∃ cause, attempt read = .error (.configuration cause)) ∨
      ∃ failure, attempt read = .error failure ∧ ∀ cause, failure ≠ .configuration cause := by
  cases attempt read with
  | ok found => exact Or.inl ⟨found.1, found.2, rfl⟩
  | error failure =>
      cases failure with
      | configuration cause => exact Or.inr (Or.inl ⟨cause, rfl⟩)
      | _ => exact Or.inr (Or.inr ⟨_, rfl, by simp⟩)

namespace State

section Attempt

variable {read : Traced FilterSetConfig} {config : FilterSetConfig} {filters : FilterSet}
  {failure : Failure}

theorem installRead_of_ok (h : attempt read.result = .ok (config, filters)) (state : State) :
    ∃ events, state.installRead read =
      ({ state with config := some config, filters := some filters },
        ⟨.ok (config, filters), events⟩) := by
  obtain ⟨hread, hbuild⟩ := attempt_eq_ok_iff.1 h
  exact ⟨_, installRead_of_build hread hbuild state⟩

theorem installRead_of_error (h : attempt read.result = .error failure) (state : State) :
    ∃ events, state.installRead read = (state, ⟨.error failure, events⟩) := by
  unfold attempt at h
  rw [installRead]
  cases hread : read.result with
  | error cause =>
      rw [hread] at h
      obtain rfl := Except.error.inj h
      exact ⟨_, rfl⟩
  | ok config =>
      rw [hread] at h
      have hbuild : config.build = .error failure := map_eq_error_iff.1 h
      simp only [install, hbuild]
      exact ⟨_, rfl⟩

/-! ## Starts -/

variable {path : String} {bytes : List UInt8}

theorem start_of_ok (h : attempt (load path (some bytes)).result = .ok (config, filters))
    (state : State) :
    ∃ events, state.start path (some bytes) =
      (⟨some config, some filters, { state.startup with path := some path, loaded := true }⟩,
        .ok true, events) := by
  obtain ⟨events, hinstall⟩ := installRead_of_ok h
    { state with startup := { state.startup with path := some path } }
  simp only [start, hinstall]
  exact ⟨_, rfl⟩

theorem start_of_rejected {cause : ConfigFailure}
    (h : attempt (load path (some bytes)).result = .error (.configuration cause)) (state : State) :
    ∃ events, state.start path (some bytes) =
      ({ state with
          startup := { state.startup with path := some path, error := some cause.message } },
        .ok false, events ++ [.rejected path cause.message]) := by
  obtain ⟨events, hinstall⟩ := installRead_of_error h
    { state with startup := { state.startup with path := some path } }
  simp only [start, hinstall]
  exact ⟨_, rfl⟩

theorem start_of_stopped (h : attempt (load path (some bytes)).result = .error failure)
    (hnot : ∀ cause, failure ≠ .configuration cause) (state : State) :
    ∃ events, state.start path (some bytes) =
      ({ state with startup := { state.startup with path := some path } },
        .error failure, events) := by
  obtain ⟨events, hinstall⟩ := installRead_of_error h
    { state with startup := { state.startup with path := some path } }
  simp only [start, hinstall]
  cases failure with
  | configuration cause => exact absurd rfl (hnot cause)
  | _ => exact ⟨_, rfl⟩

/-! ## Requests to install -/

variable {body : Option Json} {rules : List Json}

theorem put_of_ok (hbody : rulesBody body = .ok rules)
    (h : attempt (ofJson (.object [("rules", .list rules)])).result = .ok (config, filters))
    (state : State) :
    ∃ events, state.respond ⟨"PUT", filtersPath, body⟩ =
      ({ state with config := some config, filters := some filters },
        filtersReply config filters, events) := by
  obtain ⟨events, hinstall⟩ := installRead_of_ok h state
  refine ⟨events, ?_⟩
  show state.putFilters body = _
  simp only [putFilters, hbody, hinstall]

theorem put_of_error (hbody : rulesBody body = .ok rules)
    (h : attempt (ofJson (.object [("rules", .list rules)])).result = .error failure)
    (state : State) :
    ∃ events, state.respond ⟨"PUT", filtersPath, body⟩ = (state, failureReply failure, events) := by
  obtain ⟨events, hinstall⟩ := installRead_of_error h state
  refine ⟨events, ?_⟩
  show state.putFilters body = _
  simp only [putFilters, hbody, hinstall]
  cases failure <;> rfl

end Attempt

/-! ## Files that are no document of a configuration -/

section File

variable {path : String} {bytes : List UInt8}

theorem attempt_load_eq_ok_iff {config : FilterSetConfig} {filters : FilterSet} :
    attempt (load path (some bytes)).result = .ok (config, filters) ↔
      HeldIn bytes config ∧ config.build = .ok filters := by
  rw [attempt_eq_ok_iff, load_eq_ok_iff]

theorem not_built_of_error {failure : Failure}
    (h : attempt (load path (some bytes)).result = .error failure) {config : FilterSetConfig}
    {filters : FilterSet} (hheld : HeldIn bytes config) : config.build ≠ .ok filters := by
  intro hbuild
  rw [attempt_load_eq_ok_iff.2 ⟨hheld, hbuild⟩] at h
  cases h

/-- A file from which nothing can be installed is rejected, or it is unanswered and is not. -/
theorem attempt_load_failure {failure : Failure}
    (h : attempt (load path (some bytes)).result = .error failure) :
    (∃ cause, failure = .configuration cause) ∧ ¬ Unanswered bytes ∨
      (∀ cause, failure ≠ .configuration cause) ∧ Unanswered bytes := by
  cases hload : (load path (some bytes)).result with
  | error other =>
      rw [hload] at h
      obtain rfl := Except.error.inj h
      rcases load_failure hload with ⟨hrejected, hreach⟩ | ⟨hnot, hout⟩
      · refine Or.inl ⟨hrejected, ?_⟩
        intro hunanswered
        rcases hunanswered with hout | ⟨config, limit, hheld, -⟩
        · exact hreach hout
        · rw [load_eq_ok_iff.2 hheld] at hload
          cases hload
      · exact Or.inr ⟨hnot, Or.inl hout⟩
  | ok config =>
      have hheld := load_eq_ok_iff.1 hload
      rw [hload] at h
      have hbuild : config.build = .error failure := map_eq_error_iff.1 h
      rcases build_failure (wellFormed_of_heldIn hheld) hbuild with
        ⟨hrejected, hnone⟩ | ⟨hnot, limit, hstops⟩
      · refine Or.inl ⟨hrejected, ?_⟩
        intro hunanswered
        rcases hunanswered with hout | ⟨other, limit, hother, hstops⟩
        · exact hheld.not_outOfReach hout
        · obtain rfl := hheld.unique hother
          exact hnone limit hstops
      · exact Or.inr ⟨hnot, Or.inr ⟨config, limit, hheld, hstops⟩⟩

theorem not_unanswered_of_built {config : FilterSetConfig} {filters : FilterSet}
    (hheld : HeldIn bytes config) (hbuild : config.build = .ok filters) : ¬ Unanswered bytes := by
  intro hunanswered
  rcases hunanswered with hout | ⟨other, limit, hother, hstops⟩
  · exact hheld.not_outOfReach hout
  · obtain rfl := hheld.unique hother
    obtain ⟨failure, hfailure⟩ := exists_failure_of_stopsAt hstops
    rw [hbuild] at hfailure
    cases hfailure

end File

/-- A start from a file reports success exactly if the bytes are the text of the document of a
configuration that builds a filter set, and then both are installed. It reports nothing, and its
failure is passed on, exactly if the bytes are no text, a number in the text has too many digits, or
the first rule that is not built stops at a limit; then only the path is remembered. Otherwise the
file is rejected: the message is remembered and noted, and what is installed stays. -/
theorem start_outcomes (state : State) (path : String) (bytes : List UInt8) :
    let started := state.start path (some bytes)
    (started.2.1 = .ok true ↔ ∃ config filters, HeldIn bytes config ∧ config.build = .ok filters) ∧
    ((∃ failure, started.2.1 = .error failure) ↔ Unanswered bytes) ∧
    (∀ config filters, HeldIn bytes config → config.build = .ok filters → started.1 =
      ⟨some config, some filters, { state.startup with path := some path, loaded := true }⟩) ∧
    (∀ failure, started.2.1 = .error failure →
      started.1 = { state with startup := { state.startup with path := some path } }) ∧
    (started.2.1 = .ok false → ∃ message,
      started.1 = { state with
        startup := { state.startup with path := some path, error := some message } } ∧
      started.2.2.getLast? = some (.rejected path message)) := by
  intro started
  rcases attempt_cases (load path (some bytes)).result with
    ⟨config, filters, h⟩ | ⟨cause, h⟩ | ⟨failure, h, hnot⟩
  · obtain ⟨events, hstart⟩ := start_of_ok h state
    obtain ⟨hheld, hbuild⟩ := attempt_load_eq_ok_iff.1 h
    rw [show started = _ from hstart]
    refine ⟨iff_of_true rfl ⟨config, filters, hheld, hbuild⟩, ?_, ?_, by simp, by simp⟩
    · exact iff_of_false (by simp) (not_unanswered_of_built hheld hbuild)
    · intro other built hother hbuilt
      obtain rfl := hheld.unique hother
      obtain rfl := Except.ok.inj (hbuild.symm.trans hbuilt)
      rfl
  · obtain ⟨events, hstart⟩ := start_of_rejected h state
    have hanswered : ¬ Unanswered bytes := by
      rcases attempt_load_failure h with ⟨-, hanswered⟩ | ⟨hnot, -⟩
      · exact hanswered
      · exact absurd rfl (hnot cause)
    rw [show started = _ from hstart]
    refine ⟨iff_of_false (by simp) ?_, iff_of_false (by simp) hanswered, ?_, by simp, ?_⟩
    · intro hbuilt
      obtain ⟨config, filters, hheld, hbuild⟩ := hbuilt
      exact not_built_of_error h hheld hbuild
    · intro config filters hheld hbuild
      exact absurd hbuild (not_built_of_error h hheld)
    · intro _
      exact ⟨cause.message, rfl, List.getLast?_concat⟩
  · obtain ⟨events, hstart⟩ := start_of_stopped h hnot state
    have hunanswered : Unanswered bytes := by
      rcases attempt_load_failure h with ⟨⟨cause, rfl⟩, -⟩ | ⟨-, hunanswered⟩
      · exact absurd rfl (hnot cause)
      · exact hunanswered
    rw [show started = _ from hstart]
    refine ⟨iff_of_false (by simp) ?_, iff_of_true ⟨failure, rfl⟩ hunanswered, ?_, ?_, by simp⟩
    · intro hbuilt
      obtain ⟨config, filters, hheld, hbuild⟩ := hbuilt
      exact not_built_of_error h hheld hbuild
    · intro config filters hheld hbuild
      exact absurd hbuild (not_built_of_error h hheld)
    · intro _ _
      rfl

def smallDocument : String := "\x7b\r\n\x7d"

theorem starting_from_smallDocument :
    (clean.start "filters.json" (some smallDocument.toUTF8.toList)).2.1 = .ok true ∧
    (clean.start "filters.json" (some smallDocument.toUTF8.toList)).1 =
      ⟨some ⟨[]⟩, some ⟨[]⟩, ⟨some "filters.json", true, none⟩⟩ := by
  have hheld : HeldIn smallDocument.toUTF8.toList ⟨[]⟩ := by
    refine ⟨['\x7b', '\n', '\x7d'], .object [], ?_, rfl, rfl⟩
    rw [readFileText, decodeBytes_toUTF8]
    rfl
  have hbuild : FilterSetConfig.build ⟨[]⟩ = .ok ⟨[]⟩ := rfl
  obtain ⟨hsuccess, -, hinstalled, -, -⟩ :=
    start_outcomes clean "filters.json" smallDocument.toUTF8.toList
  exact ⟨hsuccess.2 ⟨_, _, hheld, hbuild⟩, hinstalled _ _ hheld hbuild⟩

/-- A start from a file that is no text passes its failure on, and nothing of it is remembered but
the path. -/
theorem starting_from_a_stray_byte :
    (clean.start "filters.json" (some [0xFF])).2.1 =
      .error (.undecodable ⟨.invalidStart, 0xFF, 0, 1⟩) ∧
    (clean.start "filters.json" (some [0xFF])).1.startup = ⟨some "filters.json", false, none⟩ :=
  ⟨rfl, rfl⟩

/-! ## Starts and requests -/

/-- A body whose rules, if it has any, are a list of objects. -/
def RulesAreObjects (fields : List (String × Json)) : Prop :=
  lookup? fields "rules" = none ∨
    ∃ rules, lookup? fields "rules" = some (.list rules) ∧
      ∀ rule ∈ rules, ∃ members, rule = .object members

/-- Of such a body a request reads the rules, and the rules are all that a configuration is read
from. -/
theorem exists_rulesBody {fields : List (String × Json)} (h : RulesAreObjects fields) :
    ∃ rules, rulesBody (some (.object fields)) = .ok rules ∧
      ofJson (.object fields) = ofJson (.object [("rules", .list rules)]) := by
  rcases h with hnone | ⟨rules, hrules, hobjects⟩
  · refine ⟨[], ?_, ?_⟩
    · simp only [rulesBody, bodyFields, bind, Except.bind, hnone]
    · simp only [ofJson, hnone]
      rfl
  · refine ⟨rules, rulesBody_of_objects hrules hobjects, ?_⟩
    simp only [ofJson, hrules]
    rfl

/-- A start from the text of a document goes as a request to install with that document as its body.
It reports success exactly if the request is answered with 200, and then both install the same; it
reports a rejection exactly if the request is answered with 400, and then the message it remembers
is the detail of the answer, and neither changes what is installed; and its failure is passed on
exactly if the request is answered with 500. -/
theorem start_agrees_with_put (state : State) (path : String) {text : String}
    {fields : List (String × Json)} (htext : readChars text.toList = .ok (.object fields))
    (hrules : RulesAreObjects fields) :
    let started := state.start path (some text.toUTF8.toList)
    let put := state.respond ⟨"PUT", filtersPath, some (.object fields)⟩
    (started.2.1 = .ok true ↔ put.2.1.status = 200) ∧
    (put.2.1.status = 200 → started.1.installed = put.1.installed ∧
      ∃ config filters, config.build = .ok filters ∧
        put.1.installed = (some config, some filters)) ∧
    (started.2.1 = .ok false ↔ put.2.1.status = 400) ∧
    (put.2.1.status = 400 → (∃ message, started.1.startup.error = some message ∧
        put.2.1 = .detail 400 message) ∧
      started.1.installed = state.installed ∧ put.1.installed = state.installed) ∧
    ((∃ failure, started.2.1 = .error failure) ↔ put.2.1.status = 500) := by
  obtain ⟨rules, hbody, hread⟩ := exists_rulesBody hrules
  have hload : (load path (some text.toUTF8.toList)).result =
      (ofJson (.object [("rules", .list rules)])).result := by
    rw [result_load, readDocument_of_chars htext, ← hread]
    rfl
  intro started put
  rcases attempt_cases (ofJson (.object [("rules", .list rules)])).result with
    ⟨config, filters, h⟩ | ⟨cause, h⟩ | ⟨failure, h, hnot⟩
  · obtain ⟨events, hstart⟩ := start_of_ok (hload ▸ h) state
    obtain ⟨events', hput⟩ := put_of_ok hbody h state
    rw [show started = _ from hstart, show put = _ from hput]
    have hstatus : (filtersReply config filters).status = 200 := rfl
    refine ⟨iff_of_true rfl hstatus, ?_, iff_of_false (by simp) (by simp [hstatus]),
      by simp [hstatus], iff_of_false (by simp) (by simp [hstatus])⟩
    intro _
    exact ⟨rfl, config, filters, (attempt_eq_ok_iff.1 h).2, rfl⟩
  · obtain ⟨events, hstart⟩ := start_of_rejected (hload ▸ h) state
    obtain ⟨events', hput⟩ := put_of_error hbody h state
    rw [show started = _ from hstart, show put = _ from hput]
    have hstatus : (failureReply (.configuration cause)).status = 400 := rfl
    refine ⟨iff_of_false (by simp) (by simp [hstatus]), by simp [hstatus], iff_of_true rfl hstatus,
      ?_, iff_of_false (by simp) (by simp [hstatus])⟩
    intro _
    exact ⟨⟨cause.message, rfl, rfl⟩, rfl, rfl⟩
  · obtain ⟨events, hstart⟩ := start_of_stopped (hload ▸ h) hnot state
    obtain ⟨events', hput⟩ := put_of_error hbody h state
    rw [show started = _ from hstart, show put = _ from hput]
    have hstatus : (failureReply failure).status = 500 := by
      cases failure with
      | configuration cause => exact absurd rfl (hnot cause)
      | _ => rfl
    refine ⟨iff_of_false (by simp) (by simp [hstatus]), by simp [hstatus],
      iff_of_false (by simp) (by simp [hstatus]), by simp [hstatus],
      iff_of_true ⟨failure, rfl⟩ hstatus⟩

def emptyRuleDocument : String := "\x7b\"rules\":\r\n[\r\x7b\x7d]\r\n\x7d"

theorem starting_from_emptyRuleDocument :
    (clean.start "filters.json" (some emptyRuleDocument.toUTF8.toList)).2.1 = .ok false ∧
    (clean.respond ⟨"PUT", filtersPath,
      some (.object [("rules", .list [.object []])])⟩).2.1 =
        .detail 400 "A filter rule must govern at least one axis" := by
  have htext : readChars emptyRuleDocument.toList =
      .ok (.object [("rules", .list [.object []])]) := by cbv
  have hrules : RulesAreObjects [("rules", .list [.object []])] :=
    Or.inr ⟨[.object []], rfl, by simp⟩
  have hput : (clean.respond ⟨"PUT", filtersPath,
      some (.object [("rules", .list [.object []])])⟩).2.1 =
        .detail 400 "A filter rule must govern at least one axis" := by
    have hattempt : attempt (ofJson (.object [("rules", .list [.object []])])).result =
        .error (.configuration .noAxis) := by
      have hread : (ofJson (.object [("rules", .list [.object []])])).result =
          .ok ⟨[⟨.wildcard, [], "", none⟩]⟩ := by cbv
      rw [hread]
      rfl
    have hbody : rulesBody (some (.object [("rules", .list [.object []])])) =
        .ok [.object []] := rfl
    obtain ⟨events, hrespond⟩ := put_of_error hbody hattempt clean
    rw [hrespond]
    rfl
  obtain ⟨-, -, hrejected, -, -⟩ := start_agrees_with_put clean "filters.json" htext hrules
  refine ⟨hrejected.2 ?_, hput⟩
  rw [hput]
  rfl

end State

end Service

end RefFilter
