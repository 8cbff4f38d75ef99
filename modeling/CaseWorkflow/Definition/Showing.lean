import CaseWorkflow.Dispatch

/-!
# Definitions as data

A definition is shown as the data that it can be read from.  What it shows of an action is
a copy of the parameters, so they must not nest too deep; kinds and operators must have
names.  The trigger is shown before the actions.
-/

namespace CaseWorkflow

namespace Condition

def show? (c : Condition) : Except Definition.Gap Value :=
  match c.operator.unnamed? with
  | some v => .error (.unnamed v)
  | none => .ok c.toValue

end Condition

namespace Trigger

def show? (t : Trigger) : Except Definition.Gap Value :=
  match t.kind.unnamed? with
  | some v => .error (.unnamed v)
  | none => do
    let conditions ← t.conditions.mapM Condition.show?
    return .object [("type", t.kind.value), ("conditions", .list conditions)]

end Trigger

namespace Action

def show? (a : Action) : Except Definition.Gap Value :=
  if Json.depth a.parameters ≤ copyDepth then .ok a.toValue else .error .tooDeep

end Action

namespace Definition

def show? (d : Definition) : Except Gap Value :=
  match d.trigger with
  | none => .error .noTrigger
  | some trigger => do
    let trigger ← trigger.show?
    let actions ← d.actions.mapM Action.show?
    return .object [("id", d.id), ("name", d.name), ("description", d.description),
      ("trigger", trigger), ("actions", .list actions)]

end Definition

end CaseWorkflow
