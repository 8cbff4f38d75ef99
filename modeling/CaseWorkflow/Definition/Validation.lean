import CaseWorkflow.Definition
import CaseWorkflow.Text.Blank

/-!
# Validating definitions

A definition is checked as a whole before it is activated, and every problem is
listed: first of the definition itself, then of its trigger, then of its actions
in order.  Parameters are required by the kind of action; kinds without a
requirement are let through.
-/

namespace CaseWorkflow

/-- Whether a value is anything but a text that says something. -/
def Value.isBlank (v : Value) : Bool :=
  match v.text? with
  | some s => Text.allBlank s
  | none => true

/-- The parameters that each kind of action requires, in the order of the alphabet. -/
def ActionKind.requiredParameters : ActionKind → List String
  | .assignOwner => ["metodo"]
  | .sendNotification => ["destinatario", "mensagem"]
  | .sendEmail => ["assunto", "destinatario"]
  | .createAlert => ["mensagem", "tipo"]
  | .addTag => ["tag"]
  | .addComment => ["texto"]
  | .changeStatus => ["status"]

/-- The ways of choosing an owner. -/
def assignmentMethods : List String := ["round_robin", "menor_carga", "especifico"]

namespace Action

/-- Whether a parameter is null or the empty text. -/
def lacks (parameters : Entries) (name : String) : Bool :=
  match parameters.field name with
  | .null => true
  | v => v.text? == some ""

def timeoutProblems (timeout : Value) : List ActionProblem :=
  match timeout.properNumber? with
  | none => if timeout.isNull then [] else [.timeoutNotNumber]
  | some seconds => if seconds.le (.int 0) then [.timeoutNotPositive] else []

def assignmentProblems (parameters : Entries) : List ActionProblem :=
  let method := parameters.field "metodo"
  if !method.text?.any (· ∈ assignmentMethods) then [.unknownMethod method]
  else if method.text? == some "especifico" && !(parameters.field "usuario_id").isTruthy then
    [.methodNeedsUser]
  else []

def parameterProblems (kind : ActionKind) (parameters : Entries) : List ActionProblem :=
  match kind.requiredParameters.filter (lacks parameters) with
  | [] => if kind = .assignOwner then assignmentProblems parameters else []
  | missing => [.parametersMissing kind missing]

/-- The problems of an action; where its kind is blank nothing else is looked at. -/
def problems (a : Action) : List ActionProblem :=
  if a.kind.isBlank then [.kindMissing]
  else
    timeoutProblems a.timeout ++
      match a.parameters.entries? with
      | some parameters =>
        match a.knownKind? with
        | some kind => parameterProblems kind parameters
        | none => []
      | none => [.parametersNotObject]

end Action

namespace Condition

def problems (position : Nat) (c : Condition) : List Problem :=
  (if c.field.isBlank then [.conditionFieldMissing position] else [])
    ++ match c.operator with
      | .known _ => []
      | .other v => [.conditionOperatorUnknown position v]

end Condition

namespace Definition

def headProblems (d : Definition) : List Problem :=
  (if d.id.isBlank then [.idMissing] else [])
    ++ (if d.name.isBlank then [.nameMissing] else [])
    ++ (if d.description.text?.isNone then [.descriptionNotText] else [])

def triggerProblems (d : Definition) : List Problem :=
  match d.trigger with
  | some ⟨.known _, conditions⟩ =>
    (conditions.mapIdx fun position c => c.problems position).flatten
  | _ => [.triggerKindMissing]

def actionProblems (d : Definition) : List Problem :=
  (if d.actions.isEmpty then [.noActions] else [])
    ++ (d.actions.mapIdx fun position a => a.problems.map (.action position)).flatten

/-- Everything that is wrong with the definition. -/
def problems (d : Definition) : List Problem :=
  d.headProblems ++ d.triggerProblems ++ d.actionProblems

/-- A definition without problems. -/
def Sound (d : Definition) : Prop := d.problems.isEmpty = true

instance (d : Definition) : Decidable d.Sound := by unfold Sound; infer_instance

/-- The problems with the definition's id, if it says something. -/
def invalid (d : Definition) : Invalid := ⟨d.problems, d.id.orElse .null⟩

theorem Sound.exists_trigger {d : Definition} (h : d.Sound) :
    ∃ kind conditions, d.trigger = some ⟨.known kind, conditions⟩ := by
  unfold Sound problems triggerProblems at h
  match ht : d.trigger with
  | some ⟨.known kind, conditions⟩ => exact ⟨kind, conditions, rfl⟩
  | some ⟨.other v, conditions⟩ => simp [ht] at h
  | none => simp [ht] at h

end Definition

/-- A definition that has been validated. -/
structure Workflow where
  definition : Definition
  sound : definition.Sound

namespace Workflow

def ofDefinition (d : Definition) : Except Invalid Workflow :=
  if h : d.Sound then .ok ⟨d, h⟩ else .error d.invalid

/-- The kind of event that the workflow reacts to, with its conditions. -/
def trigger (w : Workflow) : TriggerKind × List Condition :=
  match h : w.definition.trigger with
  | some ⟨.known kind, conditions⟩ => (kind, conditions)
  | some ⟨.other v, conditions⟩ =>
    absurd w.sound.exists_trigger (by simp [h])
  | none => absurd w.sound.exists_trigger (by simp [h])

def kind (w : Workflow) : TriggerKind := w.trigger.1

def conditions (w : Workflow) : List Condition := w.trigger.2

def id (w : Workflow) : Value := w.definition.id

def name (w : Workflow) : Value := w.definition.name

def actions (w : Workflow) : List Action := w.definition.actions

end Workflow

end CaseWorkflow
