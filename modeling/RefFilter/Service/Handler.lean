import RefFilter.Service.Request
import RefFilter.Service.State

/-! # Answering requests

A request names a method and a path and may have a body. The body is checked first, then the state,
then what the body says. A request changes the installed filter set only if it installs one or
removes it.
-/

namespace RefFilter.Service

structure Request where
  method : String
  path : String
  body : Option Json
deriving Repr

/-- An answer: a status with a document, a body refused for its shape, or a failure that the
service does not answer for. -/
inductive Reply where
  | answer (status : Nat) (body : Json)
  | refusal (errors : List ShapeError)
  | crash
deriving Repr

def Reply.status : Reply → Nat
  | .answer status _ => status
  | .refusal _ => 422
  | .crash => 500

inductive Endpoint where
  | applicationHealth
  | health
  | profiles
  | checkExpression
  | checkRules
  | putFilters
  | getFilters
  | deleteFilters
  | evaluate
deriving Repr, DecidableEq

def routes : List ((String × String) × Endpoint) :=
  [(("GET", "/api/headfilter/health"), .health),
    (("GET", "/api/headfilter/profiles"), .profiles),
    (("POST", "/api/headfilter/check-regex"), .checkExpression),
    (("POST", "/api/headfilter/rules/check"), .checkRules),
    (("PUT", "/api/headfilter/filters"), .putFilters),
    (("GET", "/api/headfilter/filters"), .getFilters),
    (("DELETE", "/api/headfilter/filters"), .deleteFilters),
    (("POST", "/api/headfilter/filters/evaluate"), .evaluate),
    (("GET", "/api/health"), .applicationHealth)]

namespace Reply

def okay (body : Json) : Reply := .answer 200 body

def detail (status : Nat) (text : String) : Reply :=
  .answer status (.object [("detail", .text text)])

end Reply

def version : String := "0.1.0"

abbrev Outcome := State × Reply × List Event

/-! ## Batches -/

/-- A member of a batch: a reference and its place, which tells it from equal references. -/
structure Member where
  place : Nat
  reference : Reference
deriving Repr, DecidableEq

def Member.ofReferences (references : List Reference) : List Member := references.mapIdx mk

def decisionsByPlace (report : Report Member) : List (Nat × Decision) :=
  (report.excluded.map Member.place).zip report.decisions

def outcomeJson (reference : Reference) (decision : Option Decision) : Json :=
  .object [("reference", reference.toJson), ("excluded", .bool decision.isSome),
    ("reason", .text ((decision.map Decision.reason).getD "")),
    ("rule", .text ((decision.map Decision.rule).getD ""))]

def batchJson (members : List Member) (report : Report Member) : Json :=
  let decisions := decisionsByPlace report
  .object [
    ("decisions", .list (members.map fun member =>
      outcomeJson member.reference (decisions.lookup member.place))),
    ("total", .int report.total), ("admitted_count", .int report.admitted.length),
    ("excluded_count", .int report.excluded.length)]

/-! ## Answers -/

namespace State

def healthReply : Reply :=
  .okay (.object [("status", .text "ok"), ("service", .text "headfilter"),
    ("version", .text version)])

def applicationHealth (state : State) : Reply :=
  .okay (.object [("status", .text (if state.startup.error.isNone then "ok" else "degraded")),
    ("version", .text version), ("startup_config", state.startup.toJson)])

def profilesReply : Reply :=
  .okay (.object [("profiles", .list (Profile.builtin.map Profile.toJson))])

def checkExpression (body : Option Json) : Reply :=
  match expressionBody body with
  | .error errors => .refusal errors
  | .ok source =>
    match checkPattern source with
    | .ok verdict => .okay verdict.toJson
    | .error _ => .crash

/-- The first rule configuration that is rejected, with the reason; the first has number `index`. -/
def checkEach : Nat → List Json → Traced Verdict
  | _, [] => return .success
  | index, rule :: rest => do
    let verdict ← RuleConfig.check rule
    if verdict.ok then checkEach (index + 1) rest
    else return .failure ("rule " ++ toString index ++ ": " ++ verdict.message)

def checkRules (body : Option Json) : Reply × List Event :=
  match rulesBody body with
  | .error errors => (.refusal errors, [])
  | .ok rules =>
    let checked := checkEach 0 rules
    match checked.result with
    | .ok verdict => (.okay verdict.toJson, checked.events)
    | .error _ => (.crash, checked.events)

def filtersReply (config : FilterSetConfig) (filters : FilterSet) : Reply :=
  .okay (.object [("rule_count", .int filters.rules.length), ("config", config.toJson)])

def putFilters (state : State) (body : Option Json) : Outcome :=
  match rulesBody body with
  | .error errors => (state, .refusal errors, [])
  | .ok rules =>
    let (state, attempt) :=
      state.installRead (FilterSetConfig.ofJson (.object [("rules", .list rules)]))
    match attempt.result with
    | .ok (config, filters) => (state, filtersReply config filters, attempt.events)
    | .error (.configuration cause) => (state, .detail 400 cause.message, attempt.events)
    | .error _ => (state, .crash, attempt.events)

def getFilters (state : State) : Reply :=
  match state.config, state.filters with
  | none, _ => .detail 404 "No filter set configured"
  | some config, some filters => filtersReply config filters
  | some _, none => .crash

def deleteFilters (state : State) : State × Reply :=
  ({ state with config := none, filters := none },
    .okay (.object [("removed", .bool state.config.isSome)]))

def evaluate (state : State) (body : Option Json) : Reply × List Event :=
  match referencesBody body with
  | .error errors => (.refusal errors, [])
  | .ok items =>
    match state.filters with
    | none => (.detail 409 "No filter set configured", [])
    | some filters =>
      match items.mapM ReferenceFields.reference with
      | .error failure => (.detail 400 failure.message, [])
      | .ok references =>
        let members := Member.ofReferences references
        let (report, events) := filters.filterBy Member.reference members
        (.okay (batchJson members report), events)

def serve (state : State) (endpoint : Endpoint) (body : Option Json) : Outcome :=
  match endpoint with
  | .applicationHealth => (state, state.applicationHealth, [])
  | .health => (state, healthReply, [])
  | .profiles => (state, profilesReply, [])
  | .checkExpression => (state, checkExpression body, [])
  | .checkRules =>
    let (reply, events) := checkRules body
    (state, reply, events)
  | .putFilters => putFilters state body
  | .getFilters => (state, getFilters state, [])
  | .deleteFilters =>
    let (state, reply) := deleteFilters state
    (state, reply, [])
  | .evaluate =>
    let (reply, events) := evaluate state body
    (state, reply, events)

/-- Answer a request. A path that nothing has is not found; a path that something has under another
method does not allow this one. -/
def respond (state : State) (request : Request) : Outcome :=
  match routes.lookup (request.method, request.path) with
  | some endpoint => state.serve endpoint request.body
  | none =>
    if routes.any fun route => route.1.2 == request.path then
      (state, .detail 405 "Method Not Allowed", [])
    else (state, .detail 404 "Not Found", [])

end State

/-- What can happen to the service: a start from a file, or a request. -/
inductive Step where
  | start (path : String) (file : Option (List UInt8))
  | request (request : Request)
deriving Repr

inductive StepResult where
  | started (result : Except Failure Bool)
  | replied (reply : Reply)

namespace State

def step (state : State) : Step → State × StepResult × List Event
  | .start path file =>
    let (state, result, events) := state.start path file
    (state, .started result, events)
  | .request request =>
    let (state, reply, events) := state.respond request
    (state, .replied reply, events)

def run (state : State) : List Step → State × List (StepResult × List Event)
  | [] => (state, [])
  | step :: rest =>
    let (state, result, events) := state.step step
    let (state, results) := state.run rest
    (state, (result, events) :: results)

end State

end RefFilter.Service
