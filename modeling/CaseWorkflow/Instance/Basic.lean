import CaseWorkflow.Definition.Validation
import CaseWorkflow.Instance.Status

/-!
# Instances

An activated workflow with its status and a count of the events that it matched.
-/

namespace CaseWorkflow

structure Instance where
  id : String
  workflow : Workflow
  status : Status
  executions : Nat
  createdAt : Moment
  lastExecutedAt : Option Moment

namespace Instance

/-- A new instance, active and not yet executed. -/
def create (id : String) (workflow : Workflow) (now : Moment) : Instance where
  id := id
  workflow := workflow
  status := .active
  executions := 0
  createdAt := now
  lastExecutedAt := none

def isActive (i : Instance) : Bool := i.status == .active

/-- Counts one matched event. -/
def counted (i : Instance) : Instance := { i with executions := i.executions + 1 }

/-- Sets the time of the last matched event. -/
def stamped (i : Instance) (now : Moment) : Instance := { i with lastExecutedAt := some now }

def toValue (i : Instance) : Value :=
  let d := i.workflow.definition
  .object [
    ("id", .text i.id),
    ("template_id", d.id),
    ("name", d.name),
    ("description", d.description),
    ("trigger", (d.trigger.map Trigger.toValue).getD .null),
    ("actions", .list (d.actions.map Action.toValue)),
    ("status", Vocabulary.value i.status),
    ("active", .bool i.isActive),
    ("execution_count", .int i.executions),
    ("created_at", .text i.createdAt.isoText),
    ("last_executed_at", (i.lastExecutedAt.map fun m => .text m.isoText).getD .null)]

end Instance

end CaseWorkflow
