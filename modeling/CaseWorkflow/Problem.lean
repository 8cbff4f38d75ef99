import CaseWorkflow.Kind

/-!
# Problems

What can be wrong with the data of a definition or an event.  Each problem is a
cause; its message is the one sentence by which it is reported.
-/

namespace CaseWorkflow

/-- The parts of a payload that must have a certain form. -/
inductive Part where
  | definition
  | condition
  | triggerConditions
  | action
  | actionParameters
  | actions
  | event
  deriving DecidableEq

def Part.name : Part → String
  | .definition => "Workflow definition"
  | .condition => "Condition"
  | .triggerConditions => "Trigger conditions"
  | .action => "Action"
  | .actionParameters => "Action parameters"
  | .actions => "Actions"
  | .event => "Event"

inductive ActionProblem where
  | kindMissing
  | timeoutNotNumber
  | timeoutNotPositive
  | parametersNotObject
  | parametersMissing (kind : ActionKind) (names : List String)
  | unknownMethod (method : Value)
  | methodNeedsUser

/-- The message of an action's problem, for the action at a position. -/
def ActionProblem.message (position : Nat) : ActionProblem → String
  | .kindMissing => s!"Action {position}: type is required"
  | .timeoutNotNumber => s!"Action {position}: timeout_seconds must be a number"
  | .timeoutNotPositive => s!"Action {position}: timeout_seconds must be positive"
  | .parametersNotObject => s!"Action {position}: parameters must be an object"
  | .parametersMissing kind names =>
    s!"Action {position} ({Vocabulary.wire kind}): missing parameters " ++ ", ".intercalate names
  | .unknownMethod method =>
    s!"Action {position}: Unknown assignment method: {method.expression}"
  | .methodNeedsUser =>
    s!"Action {position}: Assignment method 'especifico' requires 'usuario_id'"

inductive Problem where
  | notAnObject (part : Part)
  | notAList (part : Part)
  | triggerMissing
  | triggerKindMissing
  | unknownTriggerKind (kind : Value)
  | unknownOperator (operator : Value)
  | unknownEventKind (kind : Value)
  | eventDataNotObjects
  | eventIdNotText (id : Value)
  | timestampNotText (timestamp : Value)
  | timestampUnreadable (timestamp : Value)
  | idMissing
  | nameMissing
  | descriptionNotText
  | conditionFieldMissing (position : Nat)
  | conditionOperatorUnknown (position : Nat) (operator : Value)
  | noActions
  | action (position : Nat) (problem : ActionProblem)
  /-- A problem that the host reports in words of its own. -/
  | reported (message : String)

def Problem.message : Problem → String
  | .notAnObject part => part.name ++ " must be an object"
  | .notAList part => part.name ++ " must be a list"
  | .triggerMissing => "Trigger is required"
  | .triggerKindMissing => "Trigger type is required"
  | .unknownTriggerKind kind => "Unknown trigger type: " ++ kind.expression
  | .unknownOperator operator => "Unknown condition operator: " ++ operator.expression
  | .unknownEventKind kind => "Unknown event type: " ++ kind.expression
  | .eventDataNotObjects => "Event entity and context must be objects"
  | .eventIdNotText id => "Event id must be a string, got " ++ id.expression
  | .timestampNotText timestamp =>
    "occurred_at must be an ISO-8601 string, got " ++ timestamp.expression
  | .timestampUnreadable timestamp =>
    "occurred_at is not an ISO-8601 timestamp: " ++ timestamp.expression
  | .idMissing => "Workflow id is required"
  | .nameMissing => "Workflow name is required"
  | .descriptionNotText => "Workflow description must be a string"
  | .conditionFieldMissing position => s!"Condition {position}: field is required"
  | .conditionOperatorUnknown position operator =>
    s!"Condition {position}: unknown operator {operator.expression}"
  | .noActions => "Workflow must have at least one action"
  | .action position problem => problem.message position
  | .reported message => message

/-- The problems of one payload, with the id that it gave itself. -/
structure Invalid where
  problems : List Problem
  definition : Value

def Invalid.messages (invalid : Invalid) : List String := invalid.problems.map Problem.message

def Invalid.message (invalid : Invalid) : String :=
  (if invalid.definition.isTruthy then s!"Invalid workflow '{invalid.definition.plainText}'"
    else "Invalid workflow")
    ++ ": " ++ "; ".intercalate invalid.messages

/-- A single problem of a payload without an id. -/
def Invalid.single (problem : Problem) : Invalid := ⟨[problem], .null⟩

end CaseWorkflow
