import CaseWorkflow.Attempt
import CaseWorkflow.Event
import CaseWorkflow.Template.Render

/-!
# Action handlers

A handler carries out the actions of one kind: it notes them in the journal with
their texts rendered, or calls a capability of the host.
-/

namespace CaseWorkflow

/-- A call of a host capability. -/
structure Call where
  capability : String
  parameters : Value
  event : Event

/-- How a call ends.  A failure has a class and a text. -/
inductive Reply where
  | done
  | raised (kind text : String)
  | cancelled
  | hangs
  deriving DecidableEq

/-- What a host capability does on a call, knowing all calls before. -/
abbrev Respond := List Call → Call → Reply

inductive Conduct where
  | logging (outlet : Outlet)
  | host (capability : String) (respond : Respond)

/-- A handler for the actions of a kind, which the host may name freely. -/
structure Handler where
  kind : Value
  conduct : Conduct

/-- The handlers by the kind under which each was first registered. -/
structure Handlers where
  table : List (Value × Handler)

namespace Handlers

def empty : Handlers := ⟨[]⟩

/-- Puts a handler under its kind, in the place of an earlier one. -/
def insertInto (handler : Handler) : List (Value × Handler) → List (Value × Handler)
  | [] => [(handler.kind, handler)]
  | entry :: rest =>
    if entry.1.same handler.kind then (entry.1, handler) :: rest
    else entry :: insertInto handler rest

def insert (handlers : Handlers) (handler : Handler) : Handlers :=
  ⟨insertInto handler handlers.table⟩

def find? (handlers : Handlers) (kind : Value) : Except Fault (Option Handler) :=
  if kind.isKey then
    .ok ((handlers.table.find? fun entry => entry.1.same kind).map Prod.snd)
  else .error (.notAKey kind)

def kinds (handlers : Handlers) : List Value := handlers.table.map Prod.fst

def register (handler : Handler) : Attempt Handlers Unit := do
  let handler := { handler with kind := handler.kind.plain }
  if !handler.kind.isKey then Attempt.fail (.notAKey handler.kind)
  Attempt.modify (·.insert handler)
  Attempt.note .handlers .info s!"Registered handler for action type: {handler.kind.plainText}"

/-- A handler for each kind that notes the actions in the journal. -/
def registerLogging : Attempt Handlers Unit :=
  (Vocabulary.members (α := ActionKind)).forM fun kind =>
    register ⟨Vocabulary.value kind, .logging (.level .info)⟩

/-- Handlers that call the capabilities which the host offers, in the order in which
it names them. -/
def registerHost (capabilities : List (String × Option Respond)) : Attempt Handlers Unit := do
  let known (name : String) : Option ActionKind :=
    (Vocabulary.members (α := ActionKind)).find? (·.capability == name)
  let unknown := (capabilities.map Prod.fst).filter fun name => (known name).isNone
  if !unknown.isEmpty then
    Attempt.fail (.unknownCapabilities (unknown.mergeSort (· ≤ ·)))
  capabilities.forM fun (name, respond) =>
    match known name, respond with
    | some kind, some respond => register ⟨Vocabulary.value kind, .host name respond⟩
    | _, _ => pure ()

end Handlers

namespace Handler

/-- The parameters with every text rendered from the event. -/
def renderParameters (parameters : Entries) (event : Event) : Except Template.Obstacle Entries :=
  parameters.mapM fun (key, value) =>
    match value.text? with
    | some s => (Template.render s event.data).map fun s => (key, .text s)
    | none => .ok (key, value)

def actionText (kind : Value) (event : Event) (parameters : Entries) : String :=
  s!"[WorkflowAction] {kind.plainText} for {Vocabulary.wire event.kind} event {event.id}: "
    ++ (Value.object parameters).expression

/-- The failure of rendering, as a reply. -/
def replyOf : Template.Obstacle → Reply
  | .wrongKind message => .raised "TypeError" message
  | .tooLarge message => .raised "OverflowError" message
  | .tooWide => .raised "MemoryError" ""
  | .malformed => .raised "ValueError" ""

/-- Gives a text to a part of the journal. -/
def noteBy (outlet : Outlet) (text : String) : Attempt (List Call) Reply := do
  match outlet with
  | .level level =>
    Attempt.note .handlers level text
    return .done
  | .silent => return .done
  | .levelNames => return .raised "ValueError" (Fault.unknownLogLevel text).message
  | .records => return .raised "AttributeError" "a record was expected"
  | .closed => return .raised "TypeError" "no text was expected"

/-- Carries out an action.  The state is the list of calls so far. -/
def execute (handler : Handler) (parameters : Value) (event : Event) :
    Attempt (List Call) Reply := do
  match handler.conduct with
  | .host capability respond =>
    let call : Call := ⟨capability, parameters, event⟩
    let history ← Attempt.get
    Attempt.set (history ++ [call])
    return respond history call
  | .logging outlet =>
    match renderParameters (parameters.entries?.getD []) event with
    | .error obstacle => return replyOf obstacle
    | .ok rendered => noteBy outlet (actionText handler.kind event rendered)

end Handler

end CaseWorkflow
