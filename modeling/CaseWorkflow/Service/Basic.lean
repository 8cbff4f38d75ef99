import CaseWorkflow.Definition.Showing
import CaseWorkflow.Service.Request
import CaseWorkflow.Service.Response
import CaseWorkflow.Service.Route
import CaseWorkflow.Worker.Basic

/-!
# The web service

Offers the catalog, the registry and the queue over the web.
-/

namespace CaseWorkflow.Service

/-- The answer to an attempt whose faults the route itself answers: what is missing, and
the problems of a payload. -/
def answering (attempt : Attempt Station Response) : Attempt Station Response := do
  match ← Attempt.guarded attempt with
  | .ok response => return response
  | .error (.invalid i) => return .problems i
  | .error (.instanceMissing id) => return .refusal 404 (Fault.instanceMissing id).message
  | .error (.templateMissing id) => return .refusal 404 (Fault.templateMissing id).message
  | .error fault => Attempt.fail fault

def catalog : Attempt Station Catalog := do return (← Attempt.get).desk.registry.catalog

/-- Templates as data, if all of them can be shown. -/
def shown (templates : List Workflow) : Attempt Station (List Value) :=
  Attempt.ofExcept
    ((templates.mapM fun (w : Workflow) => w.definition.show?).mapError .gap)

def listTemplates : Attempt Station Response := do
  let templates := (← catalog).templates
  return .json 200 [("templates", .list (← shown templates)), ("count", .int templates.length)]

def showTemplate (id : String) : Attempt Station Response :=
  answering do
    let template ← Attempt.ofExcept ((← catalog).get (.text id))
    return .data 200 (← Attempt.ofExcept (template.definition.show?.mapError .gap))

/-- The entries of a body, which the route takes for granted. -/
def bodyEntries (data : Value) : Attempt Station Entries :=
  match data.entries? with
  | some entries => pure entries
  | none => Attempt.fail (.wrongKind s!"'{data.kindName}' object has no attribute 'get'")

/-- Activates the template that the entries name, or else their definition. -/
def activateNamed (clock : Clock) (entries : Entries) : Attempt Station Response := do
  let template := entries.field "template_id"
  let definition := entries.field "definition"
  if template.isTruthy then
    return .data 201 (← Station.onDesk (Desk.activateTemplate clock template)).toValue
  else if definition.isTruthy then
    match Definition.read definition with
    | .error invalid => Attempt.fail (.invalid invalid)
    | .ok d => return .data 201 (← Station.onDesk (Desk.activate clock d)).toValue
  else return .refusal 400 "template_id or definition is required"

/-- Activates the template or the definition that the body names. -/
def activate (clock : Clock) (data : Value) : Attempt Station Response := do
  if !data.isTruthy then return .refusal 400 "Request body required"
  answering do activateNamed clock (← bodyEntries data)

def listWorkflows (address : Address) : Attempt Station Response := do
  let registry := (← Attempt.get).desk.registry
  let onlyActive := Text.lower ((address.query? "active").getD "") = "true"
  let instances := if onlyActive then registry.active else registry.instances
  return .json 200 [
    ("workflows", .list (instances.map Instance.toValue)), ("count", .int instances.length)]

def showWorkflow (id : String) : Attempt Station Response :=
  answering do return .data 200 (← Station.onDesk (Desk.get (.text id))).toValue

def toggle (id : String) : Attempt Station Response :=
  answering do return .data 200 (← Station.onDesk (Desk.toggle (.text id))).toValue

def remove (id : String) : Attempt Station Response :=
  answering do
    Station.onDesk (Desk.remove (.text id))
    return .noContent

/-- Reads the event of a body and goes on with it. -/
def withEvent (clock : Clock) (data : Value) (next : Event → Attempt Station Response) :
    Attempt Station Response := do
  if !data.isTruthy then return .refusal 400 "Request body required"
  match ← Attempt.guarded (Station.onDesk (Desk.readEvent clock data)) with
  | .ok event => next event
  | .error (.invalid i) => return .problems i
  | .error fault => Attempt.fail fault

/-- Runs the event of the body through all active workflows. -/
def handleEvent (clock : Clock) (data : Value) : Attempt Station Response :=
  withEvent clock data fun event => do
    let executions ← Station.onDesk (Desk.handle clock event)
    return .json 200 [
      ("event_id", .text event.id),
      ("results", .list (executions.map Execution.toValue)),
      ("count", .int executions.length),
      ("matched", .int (executions.filter Execution.matched).length)]

/-- The delay that a body asks for, in whole seconds. -/
def delayOf? (data : Value) : Option Int :=
  match (data.entries?.getD []).lookup "delay_seconds" with
  | none => some 0
  | some (.int i) => if i < 0 then none else some i
  | some _ => none

/-- Puts the event of the body on the queue. -/
def enqueueEvent (clock : Clock) (queue : Queue) (data : Value) : Attempt Station Response :=
  withEvent clock data fun event => do
    match delayOf? data with
    | none => return .refusal 400 "delay_seconds must be a non-negative integer"
    | some delay =>
      match ← Station.onBroker (queue.publish clock.seconds event (.int delay) true) with
      | none => return .json 200 [("event_id", .text event.id), ("status", .text "duplicate")]
      | some message =>
        return .json 202 [
          ("event_id", .text event.id), ("message_id", message.id), ("status", .text "queued")]

/-- Tells how the service is, and whether the store answers it. -/
def health (queue : Queue) : Attempt Station Response := do
  let answered := match ← Attempt.guarded (Station.onBroker queue.ping) with
    | .ok answered => answered
    | .error _ => false
  let registry := (← Attempt.get).desk.registry
  return .json 200 [
    ("status", .text "healthy"),
    ("workflows", .int registry.size),
    ("active_workflows", .int registry.active.length),
    ("redis", .text (if answered then "healthy" else "unhealthy"))]

/-- The failure that a drill asks for. -/
def drill : Drill → Fault
  | .validation => .invalid ⟨[.reported "p1", .reported "p2"], .text "wf"⟩
  | .notFound => .missing "gone"
  | .other => .wrongKind "boom"

def body (request : Request) : Attempt Station Value :=
  Attempt.ofExcept (request.data.mapError .json)

/-- Answers a request that a route accepts. -/
def answer (clock : Clock) (queue : Queue) (request : Request) (address : Address) :
    Route → Attempt Station Response
  | .templates => listTemplates
  | .metadata => return .data 200 Catalog.metadata
  | .template id => showTemplate id
  | .workflows => do
    if request.verb = "POST" then activate clock (← body request) else listWorkflows address
  | .workflow id => if request.verb = "DELETE" then remove id else showWorkflow id
  | .toggle id => toggle id
  | .events => do handleEvent clock (← body request)
  | .eventQueue => do enqueueEvent clock queue (← body request)
  | .health => health queue
  | .staticFile => return .notFound
  | .drill => Attempt.fail (drill request.drill)

/-- Answers a request by a route that accepts it. -/
def answerBy (clock : Clock) (queue : Queue) (request : Request) (address : Address)
    (route : Route) : Attempt Station Response := do
  if request.verb = "OPTIONS" then return .blank
  let prepared := do Attempt.ofExcept (← answer clock queue request address route).forWeb
  match ← Attempt.guarded prepared with
  | .ok response => return response
  | .error fault =>
    if !Response.isExpected fault then
      Attempt.note .app .error s!"Unhandled exception: {fault.message}"
    return .ofFault fault

/-- Leads a request to its route, or tells why there is none. -/
def direct (clock : Clock) (queue : Queue) (request : Request) (address : Address) :
    Attempt Station Response :=
  match Destination.of address.path request.verb with
  | .route route => answerBy clock queue request address route
  | .elsewhere path => return .elsewhere (address.moved path)
  | .wrongMethod => return .methodNotAllowed
  | .nowhere => return .notFound

/-- Answers a request that has an address, whatever happens.  The head alone is sent to
those who ask for it in capitals. -/
def respond (clock : Clock) (queue : Queue) (request : Request) : Attempt Station Response := do
  let address ← Attempt.ofExcept request.address
  let response ← direct clock queue request address
  return if request.method = "HEAD" then response.headOnly else response

def openService : Attempt Station Unit := do
  Attempt.note .routes .info "Routes registered"
  Attempt.note .app .info "Flask application created"

end CaseWorkflow.Service
