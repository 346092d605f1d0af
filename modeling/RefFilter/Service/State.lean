import RefFilter.Config.FilterSetConfig

/-! # State of the service

The service keeps a configuration and a filter set, or neither, and remembers how its start went.
A configuration is installed together with the filter set that it builds.
-/

namespace RefFilter.Service

/-- How the start of the service went: the file that was asked for, whether one was ever loaded,
and why the latest bad one was rejected. -/
structure StartupStatus where
  path : Option String
  loaded : Bool
  error : Option String
deriving Repr, DecidableEq

structure State where
  config : Option FilterSetConfig
  filters : Option FilterSet
  startup : StartupStatus

namespace StartupStatus

def clean : StartupStatus := ⟨none, false, none⟩

def toJson (status : StartupStatus) : Json :=
  .object [("config_path", .ofText? status.path), ("loaded", .bool status.loaded),
    ("error", .ofText? status.error)]

end StartupStatus

namespace State

def clean : State := ⟨none, none, .clean⟩

/-- Build a configuration and install it with its filter set. If it does not build, the state stays
as it is. -/
def install (state : State) (config : FilterSetConfig) : State × Traced FilterSet :=
  match config.build with
  | .error failure => (state, .ofResult (.error failure))
  | .ok filters =>
    ({ state with config := some config, filters := some filters },
      ⟨.ok filters, [.installed filters.rules.length]⟩)

def installRead (state : State) (read : Traced FilterSetConfig) :
    State × Traced (FilterSetConfig × FilterSet) :=
  match read.result with
  | .error failure => (state, ⟨.error failure, read.events⟩)
  | .ok config =>
    let (state, built) := state.install config
    (state, ⟨built.result.map (config, ·), read.events ++ built.events⟩)

/-- Start from a file. A file that is rejected is remembered and changes nothing else; without a
file only its path is remembered. A failure that is no rejection is passed on. -/
def start (state : State) (path : String) (file : Option (List UInt8)) :
    State × Except Failure Bool × List Event :=
  let state := { state with startup := { state.startup with path := some path } }
  match file with
  | none => (state, .ok false, [.noConfiguration path])
  | some _ =>
    let (state, attempt) := state.installRead (FilterSetConfig.load path file)
    match attempt.result with
    | .ok _ =>
      ({ state with startup := { state.startup with loaded := true } }, .ok true, attempt.events)
    | .error (.configuration cause) =>
      ({ state with startup := { state.startup with error := some cause.message } }, .ok false,
        attempt.events ++ [.rejected path cause.message])
    | .error failure => (state, .error failure, attempt.events)

end State

end RefFilter.Service
