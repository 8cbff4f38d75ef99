import CaseWorkflow.Catalog.Basic

/-!
# The standard catalog

The templates that a law office starts with, and the descriptions of triggers,
actions and operators for those who write their own.
-/

namespace CaseWorkflow.Catalog

def condition (field : String) (operator : Operator) (value : Value) : Condition :=
  ⟨.text field, .known operator, value⟩

def action (kind : ActionKind) (parameters : List (String × String)) : Action :=
  ⟨Vocabulary.value kind, .object (parameters.map fun (key, s) => (key, .text s)), .null⟩

def template (id name description : String) (kind : TriggerKind) (conditions : List Condition)
    (actions : List Action) : Definition :=
  ⟨.text id, .text name, .text description, some ⟨.known kind, conditions⟩, actions⟩

def assignOwner : Definition :=
  template "novo-processo-atribuir" "Novo Processo → Atribuir Advogado"
    "Quando criar novo processo, atribuir automaticamente a um advogado"
    .processCreated []
    [action .assignOwner [("metodo", "round_robin")],
      action .sendNotification
        [("destinatario", "advogado_atribuido"), ("mensagem", "Novo processo atribuído a você")]]

def deadlineAlert : Definition :=
  template "prazo-7dias-alerta" "Prazo em 7 dias → Alerta"
    "Criar alerta quando prazo estiver próximo (7 dias)"
    .deadlineApproaching [condition "dias_restantes" .le (.int 7)]
    [action .createAlert
        [("tipo", "prazo_urgente"), ("mensagem", "Prazo em \x7bdias_restantes\x7d dias")],
      action .sendEmail
        [("destinatario", "advogado_responsavel"),
          ("assunto", "Prazo urgente: \x7bnumero_processo\x7d"), ("template", "prazo_urgente")]]

def archivedNotice : Definition :=
  template "status-arquivado-notificar" "Status → Arquivado"
    "Quando processo for arquivado, notificar cliente e equipe"
    .statusChanged [condition "status_novo" .eq (.text "arquivado")]
    [action .sendNotification
        [("destinatario", "equipe"), ("mensagem", "Processo \x7bnumero\x7d foi arquivado")],
      action .addComment [("texto", "Processo arquivado automaticamente pelo sistema")]]

def hearingReminder : Definition :=
  template "audiencia-lembrete" "Audiência → Lembrete 1 dia antes"
    "Enviar lembrete 1 dia antes de cada audiência"
    .hearingApproaching [condition "horas_restantes" .le (.int 24)]
    [action .sendNotification
        [("destinatario", "advogado_responsavel"),
          ("mensagem", "Lembrete: Audiência amanhã às \x7bhora\x7d")],
      action .sendEmail
        [("destinatario", "advogado_responsavel"), ("assunto", "Lembrete: Audiência amanhã"),
          ("template", "lembrete_audiencia")]]

def urgentEscalation : Definition :=
  template "processo-urgente-escalacao" "Processo Urgente → Escalar para Sócio"
    "Processos urgentes são automaticamente notificados ao sócio"
    .processCreated [condition "prazo_dias" .le (.int 3)]
    [action .sendNotification
        [("destinatario", "socios"), ("mensagem", "Processo urgente criado: \x7bnumero\x7d")],
      action .addTag [("tag", "URGENTE")]]

def standardDefinitions : List Definition :=
  [assignOwner, deadlineAlert, archivedNotice, hearingReminder, urgentEscalation]

def standard : Catalog :=
  match ofDefinitions standardDefinitions with
  | .ok c => c
  | .error _ => empty

def texts (items : List String) : Value := .list (items.map .text)

/-- Name, description and a list of words about a kind. -/
def describe {α : Type} [Vocabulary α] (list : String) (kind : α) (name description : String)
    (items : List String) : String × Value :=
  (Vocabulary.wire kind,
    .object [("name", .text name), ("description", .text description), (list, texts items)])

def triggerDescriptions : Entries := [
  describe "fields" TriggerKind.processCreated "Processo Criado"
    "Quando um novo processo é cadastrado" ["status", "tribunal", "classe", "prazo_dias"],
  describe "fields" TriggerKind.statusChanged "Status Alterado"
    "Quando o status de um processo muda" ["status_anterior", "status_novo"],
  describe "fields" TriggerKind.deadlineApproaching "Prazo Próximo"
    "Quando um prazo está próximo de vencer" ["dias_restantes", "tipo_prazo"],
  describe "fields" TriggerKind.hearingApproaching "Audiência Próxima"
    "Quando uma audiência está próxima" ["horas_restantes", "dias_restantes"],
  describe "fields" TriggerKind.commentAdded "Comentário Adicionado"
    "Quando alguém comenta em um processo" ["usuario", "mencoes"]]

def actionDescriptions : Entries := [
  describe "parameters" ActionKind.assignOwner "Atribuir a Advogado"
    "Atribui o processo a um advogado" ["metodo", "usuario_id"],
  describe "parameters" ActionKind.sendNotification "Enviar Notificação"
    "Envia notificação push" ["destinatario", "mensagem"],
  describe "parameters" ActionKind.sendEmail "Enviar Email"
    "Envia email personalizado" ["destinatario", "assunto", "template"],
  describe "parameters" ActionKind.createAlert "Criar Alerta"
    "Cria um novo alerta no sistema" ["tipo", "mensagem"],
  describe "parameters" ActionKind.addTag "Adicionar Tag"
    "Adiciona uma tag ao processo" ["tag"],
  describe "parameters" ActionKind.addComment "Criar Comentário"
    "Adiciona um comentário automático" ["texto"],
  describe "parameters" ActionKind.changeStatus "Alterar Status"
    "Muda o status do processo" ["status"]]

def operatorLabels : Entries :=
  [(Operator.eq, "Igual a"), (.ne, "Diferente de"), (.gt, "Maior que"),
    (.ge, "Maior ou igual a"), (.lt, "Menor que"), (.le, "Menor ou igual a"),
    (.contains, "Contém"), (.notContains, "Não contém")].map
    fun (operator, label) => (Vocabulary.wire operator, .text label)

/-- What can be used in a definition, for those who write one. -/
def metadata : Value :=
  .object [("trigger_types", .object triggerDescriptions),
    ("action_types", .object actionDescriptions), ("operators", .object operatorLabels)]

end CaseWorkflow.Catalog
