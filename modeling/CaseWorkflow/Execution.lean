import CaseWorkflow.Dispatch
import CaseWorkflow.Instance.Basic

/-!
# Executions

What one instance made of one event: its trigger did not match, could not be
decided, or matched, and then every action has a result.  An event of another
kind never matches, and its conditions are not looked at.
-/

namespace CaseWorkflow

inductive Finding where
  | undecided (condition : Condition) (detail : String)
  | unmatched
  | matched (results : List ActionResult)

def Finding.isMatched : Finding → Bool
  | .matched _ => true
  | _ => false

structure Execution where
  workflow : String
  finding : Finding
  executedAt : Moment

namespace Execution

def matched (e : Execution) : Bool := e.finding.isMatched

def results (e : Execution) : List ActionResult :=
  match e.finding with
  | .matched results => results
  | _ => []

/-- Whether the trigger matched and every action succeeded. -/
def success (e : Execution) : Bool := e.matched && e.results.all ActionResult.success

def failedActions (e : Execution) : List ActionResult := e.results.filter (!·.success)

def error? (e : Execution) : Option ErrorKind :=
  match e.finding with
  | .undecided _ _ => some .conditionEvaluation
  | _ => none

def detail? (e : Execution) : Option String :=
  match e.finding with
  | .undecided _ detail => some detail
  | _ => none

def failedCondition? (e : Execution) : Option Condition :=
  match e.finding with
  | .undecided condition _ => some condition
  | _ => none

def toValue (e : Execution) : Value :=
  .object [
    ("workflow_id", .text e.workflow),
    ("matched", .bool e.matched),
    ("success", .bool e.success),
    ("results", .list (e.results.map ActionResult.toValue)),
    ("error", (e.error?.map Vocabulary.value).getD .null),
    ("error_detail", (e.detail?.map .text).getD .null),
    ("failed_condition", (e.failedCondition?.map Condition.toValue).getD .null),
    ("executed_at", .text e.executedAt.isoText)]

end Execution

def fires (kind : TriggerKind) (conditions : List Condition) (event : Event) :
    Except Undecided Bool :=
  if kind = event.kind then Condition.evaluateAll conditions event.data else .ok false

namespace Instance

/-- Decides the instance's trigger on an event, and runs its actions where it fires. -/
def react (d : Dispatcher) (event : Event) (i : Instance) : Attempt (List Call) Finding := do
  match fires i.workflow.kind i.workflow.conditions event with
  | .error undecided =>
    match undecided.condition? with
    | none => Attempt.fail (.undecided undecided)
    | some condition =>
      Attempt.note .aggregator .warning
        (s!"Workflow {i.id} ({i.workflow.name.plainText}) condition error on event {event.id}: "
          ++ undecided.message)
      return .undecided condition undecided.message
  | .ok false =>
    Attempt.note .aggregator .debug s!"Workflow {i.id} did not match event {event.id}"
    return .unmatched
  | .ok true =>
    Attempt.note .aggregator .info
      s!"Workflow {i.id} ({i.workflow.name.plainText}) matched event {event.id}"
    return .matched (← d.dispatch i.workflow.actions event)

end Instance

end CaseWorkflow
