import CaseWorkflow.Registry.Basic

/-!
# Working with the registry

The operations on a registry.  Some of them need the time, and some a new id; handling
an event adds to the calls that the host has received.  Where the clock shows no moment
an operation ends at the point where it needs one.
-/

namespace CaseWorkflow

/-- Whether the parameters of the actions and the values of the conditions can be copied. -/
def Workflow.isCopyable (w : Workflow) : Bool :=
  (w.actions.map Action.parameters ++ w.conditions.map Condition.value).all
    (Json.depth · ≤ copyDepth)

/-- A registry with the number of ids given out and the calls made so far. -/
structure Desk where
  registry : Registry
  issued : Nat
  calls : List Call

namespace Desk

def freshId (desk : Desk) : String := s!"id-{desk.issued + 1}"

def withRegistry (desk : Desk) (registry : Registry) : Desk := { desk with registry }

def drawId : Attempt Desk String := do
  let desk ← Attempt.get
  Attempt.set { desk with issued := desk.issued + 1 }
  return desk.freshId

def moment (clock : Clock) : Attempt Desk Moment :=
  Attempt.ofExcept (clock.moment.mapError .clock)

/-- The copy of a workflow that an instance keeps. -/
def copied (workflow : Workflow) : Attempt Desk Workflow :=
  if workflow.isCopyable then pure workflow else Attempt.fail (.json (.tooDeep none))

/-- Puts an instance in the place of the one with its id. -/
def replace (i : Instance) : Attempt Desk Unit :=
  Attempt.modify fun desk => desk.withRegistry (desk.registry.replace i)

/-- Activates a definition, which must be sound. -/
def activate (clock : Clock) (d : Definition) : Attempt Desk Instance := do
  match Workflow.ofDefinition d with
  | .error invalid => Attempt.fail (.invalid invalid)
  | .ok workflow =>
    let i := Instance.create (← drawId) (← copied workflow) (← moment clock)
    Attempt.modify fun desk => desk.withRegistry (desk.registry.append i)
    Attempt.note .registry .info
      s!"Activated workflow {i.id} from template '{workflow.id.plainText}'"
    return i

/-- Activates a template of the catalog. -/
def activateTemplate (clock : Clock) (id : Value) : Attempt Desk Instance := do
  let desk ← Attempt.get
  let template ← Attempt.ofExcept (desk.registry.catalog.get id)
  activate clock template.definition

/-- Activates templates of the catalog, up to the first that it lacks. -/
def activateTemplates (clock : Clock) (ids : List String) : Attempt Desk Unit :=
  ids.forM fun id => do let _ ← activateTemplate clock (.text id)

/-- Pauses or resumes an instance. -/
def toggle (id : Value) : Attempt Desk Instance := do
  let desk ← Attempt.get
  let i ← Attempt.ofExcept (desk.registry.get id)
  let status ← Attempt.ofExcept (i.status.toggled.mapError .badStep)
  let i := { i with status }
  replace i
  Attempt.note .registry .info s!"Workflow {i.id} is now {Vocabulary.wire status}"
  return i

/-- Removes an instance for good. -/
def remove (id : Value) : Attempt Desk Unit := do
  let desk ← Attempt.get
  let i ← Attempt.ofExcept (desk.registry.get id)
  let _ ← Attempt.ofExcept ((i.status.step .removed).mapError .badStep)
  Attempt.set (desk.withRegistry (desk.registry.erase i.id))
  Attempt.note .registry .info s!"Removed workflow {i.id}"

def get (id : Value) : Attempt Desk Instance := do
  let desk ← Attempt.get
  Attempt.ofExcept (desk.registry.get id)

/-- Runs an instance on an event, and counts the event if the trigger matched. -/
def execute (clock : Clock) (event : Event) (i : Instance) : Attempt Desk Execution := do
  let dispatcher := (← Attempt.get).registry.dispatcher
  let finding ← Attempt.on Desk.calls (fun calls desk => { desk with calls })
    (i.react dispatcher event)
  if finding.isMatched then replace i.counted
  let now ← moment clock
  if finding.isMatched then replace (i.counted.stamped now)
  return ⟨i.id, finding, now⟩

/-- Runs every active instance on an event, in the order of their activation. -/
def handle (clock : Clock) (event : Event) : Attempt Desk (List Execution) := do
  let executions ← (← Attempt.get).registry.active.mapM (execute clock event)
  let matched := (executions.filter Execution.matched).length
  Attempt.note .registry .info
    (s!"Event {event.id} ({Vocabulary.wire event.kind}) handled by "
      ++ s!"{executions.length} workflows, {matched} matched")
  return executions

/-- Reads an event, and gives it an id and a time where it brings none. -/
def readEvent (clock : Clock) (v : Value) : Attempt Desk Event := do
  match Event.Draft.read v with
  | .error problem => Attempt.fail (.invalid (.single problem))
  | .ok draft =>
    let id ← match draft.id with
      | some id => pure id
      | none => drawId
    let occurredAt ← match draft.occurredAt with
      | some moment => pure moment
      | none => moment clock
    return draft.complete id occurredAt

end Desk

end CaseWorkflow
