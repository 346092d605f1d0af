import RefFilter.Reference.Basic

/-! # Events

What is worth noting while references are filtered and configurations are installed. An event has
a level and a text. An operation that can fail keeps the events from before its failure.
-/

namespace RefFilter

open Text

inductive Level where
  | debug
  | info
  | warning
deriving Repr, DecidableEq

def Level.name : Level → String
  | .debug => "DEBUG"
  | .info => "INFO"
  | .warning => "WARNING"

inductive Event where
  | excluded (category : Category) (name reason : String)
  | filtered (total admitted excluded : Nat)
  | legacyDefaults (profile : String) (fields : List String)
  | loaded (rules : Nat) (path : String)
  | installed (rules : Nat)
  | noConfiguration (path : String)
  | rejected (path message : String)
deriving Repr, DecidableEq

namespace Event

def level : Event → Level
  | .excluded _ _ _ => .debug
  | .legacyDefaults _ _ | .rejected _ _ => .warning
  | _ => .info

def text : Event → String
  | .excluded category name reason =>
    "Excluded " ++ category.name ++ " " ++ quote name ++ ": " ++ reason
  | .filtered total admitted dropped =>
    "Filtered " ++ toString total ++ " references: " ++ toString admitted ++ " admitted, " ++
      toString dropped ++ " excluded"
  | .legacyDefaults profile fields =>
    "Profile " ++ profile ++ " uses legacy defaults for " ++
      (if fields.isEmpty then "no fields" else commaList fields)
  | .loaded rules path => "Loaded " ++ toString rules ++ " filter rules from " ++ path
  | .installed rules => "Installed filter set with " ++ toString rules ++ " rules"
  | .noConfiguration path => "No filter configuration at " ++ path
  | .rejected path message => "Filter configuration " ++ path ++ " rejected: " ++ message

def toJson (event : Event) : Json := .list [.text event.level.name, .text event.text]

end Event

/-- The result of an operation and the events on the way to it, in order. -/
structure Traced (α : Type) where
  result : Except Failure α
  events : List Event

namespace Traced

variable {α β : Type}

def ofResult (result : Except Failure α) : Traced α := ⟨result, []⟩

def note (event : Event) : Traced Unit := ⟨.ok (), [event]⟩

def andThen (first : Traced α) (next : α → Traced β) : Traced β :=
  match first.result with
  | .error failure => ⟨.error failure, first.events⟩
  | .ok value =>
    let second := next value
    ⟨second.result, first.events ++ second.events⟩

instance : Monad Traced where
  pure value := ⟨.ok value, []⟩
  bind := andThen

instance : MonadLift (Except Failure) Traced where
  monadLift := ofResult

end Traced

end RefFilter
