import CaseWorkflow.Condition

/-!
# Workflow definitions

A definition pairs one trigger with a list of actions.  Its parts may hold any
values until it is validated; a definition that is read from data has at least
known kinds and operators, and objects for parameters.
-/

namespace CaseWorkflow

/-- The kind of event and the conditions that must all hold. -/
structure Trigger where
  kind : Named TriggerKind
  conditions : List Condition

/-- One step of a workflow.  A timeout in seconds may take the place of the usual one. -/
structure Action where
  kind : Value
  parameters : Value
  timeout : Value

structure Definition where
  id : Value
  name : Value
  description : Value
  trigger : Option Trigger
  actions : List Action

/-- The items of a list, where null stands for none. -/
def Value.itemsOf (v : Value) (part : Part) : Except Problem (List Value) :=
  match v with
  | .null => .ok []
  | .list items => .ok items
  | _ => .error (.notAList part)

namespace Trigger

def read (entries : Entries) : Except Problem Trigger := do
  let kind := entries.field "type"
  if !kind.isTruthy then throw .triggerKindMissing
  match Vocabulary.find? kind with
  | none => throw (.unknownTriggerKind kind)
  | some member =>
    let items ← (entries.field "conditions").itemsOf .triggerConditions
    return ⟨.known member, ← items.mapM Condition.read⟩

def toValue (t : Trigger) : Value :=
  .object [("type", t.kind.value), ("conditions", .list (t.conditions.map Condition.toValue))]

end Trigger

namespace Action

def knownKind? (a : Action) : Option ActionKind := Vocabulary.find? a.kind

/-- Reads an action.  Its kind stays a value, so that kinds without a handler can be
loaded too; no parameters are as good as an empty object. -/
def read (v : Value) : Except Problem Action :=
  match v.entries? with
  | some entries =>
    match ((entries.field "parameters").orElse (.object [])).entries? with
    | some parameters =>
      .ok ⟨((entries.field "type").orElse (.text "")).plain, .object parameters,
        entries.field "timeout_seconds"⟩
    | none => .error (.notAnObject .actionParameters)
  | none => .error (.notAnObject .action)

/-- The action as data; a timeout is shown where one is given. -/
def toValue (a : Action) : Value :=
  .object ([("type", a.kind), ("parameters", a.parameters)]
    ++ if a.timeout.isNull then [] else [("timeout_seconds", a.timeout)])

end Action

namespace Definition

def readParts (entries trigger : Entries) : Except Problem (Trigger × List Action) := do
  let trigger ← Trigger.read trigger
  let items ← (entries.field "actions").itemsOf .actions
  return (trigger, ← items.mapM Action.read)

/-- Reads a definition; the first problem in the order of its parts is reported. -/
def read (v : Value) : Except Invalid Definition :=
  match v.entries? with
  | some entries =>
    match (entries.field "trigger").entries? with
    | some trigger =>
      match readParts entries trigger with
      | .ok (trigger, actions) =>
        .ok {
          id := (entries.field "id").orElse (.text "")
          name := (entries.field "name").orElse (.text "")
          description := (entries.field "description").orElse (.text "")
          trigger := some trigger
          actions := actions }
      | .error problem => .error ⟨[problem], entries.field "id"⟩
    | none => .error ⟨[.triggerMissing], entries.field "id"⟩
  | none => .error (.single (.notAnObject .definition))

def toValue (d : Definition) : Value :=
  .object [("id", d.id), ("name", d.name), ("description", d.description),
    ("trigger", (d.trigger.map Trigger.toValue).getD .null),
    ("actions", .list (d.actions.map Action.toValue))]

/-- Why a definition cannot be shown as data. -/
inductive Gap where
  | noTrigger
  | unnamed (value : Value)
  | tooDeep

def Gap.message : Gap → String
  | .noTrigger => "The definition has no trigger"
  | .unnamed v => "No name is known for " ++ v.expression
  | .tooDeep => "maximum recursion depth exceeded while calling a Python object"

end Definition

end CaseWorkflow
