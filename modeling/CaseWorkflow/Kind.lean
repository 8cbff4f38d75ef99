import CaseWorkflow.Vocabulary

/-!
# Kinds

The kinds of events that a workflow reacts to, of actions that it takes, of
comparisons in its conditions, and of errors in its results.
-/

namespace CaseWorkflow

/-- What can happen to a legal process. -/
inductive TriggerKind where
  | processCreated
  | statusChanged
  | deadlineApproaching
  | hearingApproaching
  | commentAdded
  deriving DecidableEq

instance : Vocabulary TriggerKind where
  title := "TriggerType"
  members := [.processCreated, .statusChanged, .deadlineApproaching, .hearingApproaching,
    .commentAdded]
  wire
    | .processCreated => "processo_criado"
    | .statusChanged => "status_alterado"
    | .deadlineApproaching => "prazo_proximo"
    | .hearingApproaching => "audiencia_proxima"
    | .commentAdded => "comentario_adicionado"
  label
    | .processCreated => "PROCESS_CREATED"
    | .statusChanged => "STATUS_CHANGED"
    | .deadlineApproaching => "DEADLINE_APPROACHING"
    | .hearingApproaching => "HEARING_APPROACHING"
    | .commentAdded => "COMMENT_ADDED"

/-- What a workflow can have done; each kind is one capability of the host. -/
inductive ActionKind where
  | assignOwner
  | sendNotification
  | sendEmail
  | createAlert
  | addTag
  | addComment
  | changeStatus
  deriving DecidableEq

instance : Vocabulary ActionKind where
  title := "ActionType"
  members := [.assignOwner, .sendNotification, .sendEmail, .createAlert, .addTag, .addComment,
    .changeStatus]
  wire
    | .assignOwner => "atribuir_usuario"
    | .sendNotification => "enviar_notificacao"
    | .sendEmail => "enviar_email"
    | .createAlert => "criar_alerta"
    | .addTag => "adicionar_tag"
    | .addComment => "criar_comentario"
    | .changeStatus => "alterar_status"
  label
    | .assignOwner => "ASSIGN_OWNER"
    | .sendNotification => "SEND_NOTIFICATION"
    | .sendEmail => "SEND_EMAIL"
    | .createAlert => "CREATE_ALERT"
    | .addTag => "ADD_TAG"
    | .addComment => "ADD_COMMENT"
    | .changeStatus => "CHANGE_STATUS"

/-- The name under which a host offers the capability behind an action. -/
def ActionKind.capability : ActionKind → String
  | .assignOwner => "assign_owner"
  | .sendNotification => "send_notification"
  | .sendEmail => "send_email"
  | .createAlert => "create_alert"
  | .addTag => "add_tag"
  | .addComment => "add_comment"
  | .changeStatus => "change_status"

/-- How a condition compares a field with its value. -/
inductive Operator where
  | eq
  | ne
  | gt
  | ge
  | lt
  | le
  | contains
  | notContains
  deriving DecidableEq

instance : Vocabulary Operator where
  title := "ConditionOperator"
  members := [.eq, .ne, .gt, .ge, .lt, .le, .contains, .notContains]
  wire
    | .eq => "=="
    | .ne => "!="
    | .gt => ">"
    | .ge => ">="
    | .lt => "<"
    | .le => "<="
    | .contains => "contains"
    | .notContains => "not_contains"
  label
    | .eq => "EQ"
    | .ne => "NE"
    | .gt => "GT"
    | .ge => "GTE"
    | .lt => "LT"
    | .le => "LTE"
    | .contains => "CONTAINS"
    | .notContains => "NOT_CONTAINS"

/-- Whether the operator asks for the order of its operands. -/
def Operator.isOrdering : Operator → Bool
  | .gt | .ge | .lt | .le => true
  | _ => false

/-- The kinds of errors that results report. -/
inductive ErrorKind where
  | conditionEvaluation
  | unknownActionKind
  | actionExecution
  deriving DecidableEq

instance : Vocabulary ErrorKind where
  title := "ErrorKind"
  members := [.conditionEvaluation, .unknownActionKind, .actionExecution]
  wire
    | .conditionEvaluation => "ConditionEvaluationError"
    | .unknownActionKind => "UnknownActionTypeError"
    | .actionExecution => "ActionExecutionError"
  label
    | .conditionEvaluation => "CONDITION_EVALUATION"
    | .unknownActionKind => "UNKNOWN_ACTION_TYPE"
    | .actionExecution => "ACTION_EXECUTION"

end CaseWorkflow
