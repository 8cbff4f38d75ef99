import CaseWorkflow.Handler.Basic
import CaseWorkflow.Json.Writer

/-!
# Dispatch

Runs the actions of a workflow in order, one after another, each on copies of its
parameters and of the event.  Each ends in a verdict, and a failure does not keep the
later ones from running.
-/

namespace CaseWorkflow

/-- How an action ended. -/
inductive Verdict where
  | succeeded
  | noHandler
  | failed (reason : String)
  | timedOut (budget : Value)

structure ActionResult where
  kind : Value
  verdict : Verdict

namespace ActionResult

def success (r : ActionResult) : Bool :=
  match r.verdict with
  | .succeeded => true
  | _ => false

def timedOut (r : ActionResult) : Bool :=
  match r.verdict with
  | .timedOut _ => true
  | _ => false

def error? (r : ActionResult) : Option ErrorKind :=
  match r.verdict with
  | .succeeded => none
  | .noHandler => some .unknownActionKind
  | .failed _ | .timedOut _ => some .actionExecution

def message? (r : ActionResult) : Option String :=
  let kind := r.kind.plainText
  match r.verdict with
  | .succeeded => none
  | .noHandler => some s!"No handler registered for action type: {kind}"
  | .failed reason => some s!"Action '{kind}' failed: {reason}"
  | .timedOut budget => some s!"Action '{kind}' failed: timed out after {budget.plainText}s"

def toValue (r : ActionResult) : Value :=
  .object [
    ("action_type", r.kind),
    ("success", .bool r.success),
    ("error", (r.error?.map Vocabulary.value).getD .null),
    ("message", (r.message?.map .text).getD .null),
    ("timed_out", .bool r.timedOut)]

end ActionResult

/-- The time that an action gets: its own, or the dispatcher's where it names none. -/
def Action.budget (a : Action) (usual : Value) : Value := a.timeout.orElse usual

/-- Whether a budget lets a handler start. -/
inductive Start where
  | begins
  | expired
  | refused (reason : String)
  deriving DecidableEq

/-- A positive budget that a clock can measure lets a handler start. -/
def Start.of (budget : Value) : Start :=
  match budget.number? with
  | none =>
    .refused
      s!"TypeError: '<=' not supported between instances of '{budget.qualifiedKind}' and 'int'"
  | some seconds =>
    if seconds.le (.int 0) then .expired
    else
      match seconds with
      | .int i =>
        if (Double.ofInt? i).isNone then
          .refused "OverflowError: int too large to convert to float"
        else .begins
      | .float _ => .begins

/-- How many lists and objects may stand in each other in what is copied. -/
def copyDepth : Nat := 485

/-- Whether the parameters and both parts of the event can be copied for a handler. -/
def Action.isCopyable (a : Action) (event : Event) : Bool :=
  [a.parameters, .object event.entity, .object event.context].all (Json.depth · ≤ copyDepth)

/-- The copies are made before the time is looked at. -/
def Action.start (a : Action) (event : Event) (usual : Value) : Start :=
  if a.isCopyable event then Start.of (a.budget usual)
  else .refused "RecursionError: maximum recursion depth exceeded while calling a Python object"

/-- The verdict on a reply.  A handler that fails for lack of time has timed out. -/
def Verdict.ofReply (budget : Value) : Reply → Verdict
  | .done => .succeeded
  | .raised kind text =>
    if kind = "TimeoutError" then .timedOut budget else .failed s!"{kind}: {text}"
  | .cancelled => .failed "CancelledError"
  | .hangs => .timedOut budget

/-- What actions run with: the handlers, the usual time, and whether the whole run is
cancelled once a handler hangs. -/
structure Dispatcher where
  handlers : Handlers
  timeout : Value
  interrupted : Bool

namespace Dispatcher

def execute (d : Dispatcher) (a : Action) (event : Event) : Attempt (List Call) Verdict := do
  match ← Attempt.ofExcept (d.handlers.find? a.kind) with
  | none => return .noHandler
  | some handler =>
    let budget := a.budget d.timeout
    match a.start event d.timeout with
    | .expired => return .timedOut budget
    | .refused reason => return .failed reason
    | .begins =>
      let reply ← handler.execute a.parameters event
      if d.interrupted && reply = .hangs then Attempt.fail .cancelled
      return .ofReply budget reply

/-- Runs the action at a position and notes how it ended. -/
def step (d : Dispatcher) (event : Event) (position : Nat) (a : Action) :
    Attempt (List Call) ActionResult := do
  let result : ActionResult := ⟨a.kind, ← d.execute a event⟩
  match result.message? with
  | none =>
    Attempt.note .dispatcher .debug
      s!"Action '{a.kind.plainText}' completed for event {event.id}"
  | some message =>
    Attempt.note .dispatcher .warning
      s!"Action {position} '{a.kind.plainText}' failed for event {event.id}: {message}"
  return result

/-- Runs actions in order, the first of which stands at a position. -/
def dispatchFrom (d : Dispatcher) (event : Event) :
    Nat → List Action → Attempt (List Call) (List ActionResult)
  | _, [] => return []
  | position, a :: rest => do
    let result ← d.step event position a
    return result :: (← d.dispatchFrom event (position + 1) rest)

def dispatch (d : Dispatcher) (actions : List Action) (event : Event) :
    Attempt (List Call) (List ActionResult) :=
  d.dispatchFrom event 0 actions

end Dispatcher

end CaseWorkflow
