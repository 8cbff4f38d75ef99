import CaseWorkflow.Service.Basic
import CaseWorkflow.Worker.Loop

/-!
# An installation

The whole of a running installation: its settings and its clock, the registry, the
store, the worker and the web service.
-/

namespace CaseWorkflow

/-- How the registry comes about: on its own, from the settings, or with the service. -/
inductive Origin where
  | plain (definitions : Option (Except Fault (List Definition))) (timeout : Value)
  | configured
  | application

/-- What an installation is set up from. -/
structure Plan where
  environment : Settings.Environment
  /-- The capabilities of the host; without them actions are only noted. -/
  capabilities : Option (List (String × Option Respond))
  origin : Origin
  queueName : String
  /-- The length of leases; where it says nothing the settings give it. -/
  leaseSeconds : Value
  /-- Whether the worker has a registry that answers. -/
  served : Bool

structure Site where
  settings : Settings
  seconds : Double
  station : Station
  /-- Whether the service has been opened. -/
  serviceOpen : Bool

namespace Site

/-- The time at which a clock starts: noon of 10 May 2024. -/
def startTime : Double := Double.ofNat 1715342400

def bare : Site where
  settings := Settings.standard
  seconds := startTime
  station := {
    desk := ⟨Registry.start Handlers.empty .null none, 0, []⟩
    broker := Broker.empty
    worker := ⟨Queue.ofSettings Settings.standard, 0, true, false, 0, none⟩ }
  serviceOpen := false

def clock (site : Site) : Clock := ⟨site.seconds⟩

def onStation {α : Type} (attempt : Attempt Station α) : Attempt Site α :=
  Attempt.on station (fun station site => { site with station }) attempt

def onDesk {α : Type} (attempt : Attempt Desk α) : Attempt Site α :=
  onStation (Station.onDesk attempt)

def onBroker {α : Type} (attempt : Attempt Broker α) : Attempt Site α :=
  onStation (Station.onBroker attempt)

def making (attempt : Attempt Handlers Unit) : Attempt Site Handlers := fun site =>
  let made := attempt Handlers.empty
  ⟨made.result.map fun _ => made.state, site, made.notes⟩

def installRegistry (registry : Registry) : Attempt Site Unit :=
  onDesk (Attempt.modify (·.withRegistry registry))

/-- The handlers given, or else those that note actions in the journal. -/
def handlersOr (handlers : Option Handlers) : Attempt Site Handlers :=
  match handlers with
  | some handlers => pure handlers
  | none => making Handlers.registerLogging

/-- A registry from the settings, with the templates that they name activated. -/
def buildRegistry (handlers : Option Handlers) : Attempt Site Unit := do
  let site ← Attempt.get
  let handlers ← handlersOr handlers
  installRegistry (Registry.start handlers (.float site.settings.actionTimeout) none)
  onDesk (Desk.activateTemplates site.clock site.settings.activeIds)

def loadSettings (environment : Settings.Environment) : Attempt Site Unit := do
  let settings ← Attempt.ofExcept (Settings.ofEnvironment Settings.standard environment)
  Attempt.modify ({ · with settings })

def openService : Attempt Site Unit := do
  if !(← Attempt.get).serviceOpen then
    onStation Service.openService
    Attempt.modify ({ · with serviceOpen := true })

def setUpRegistry (plan : Plan) (handlers : Option Handlers) : Attempt Site Unit := do
  match plan.origin with
  | .plain definitions timeout =>
    let catalog ← Attempt.ofExcept (definitions.mapM (·.bind Catalog.ofDefinitions))
    loadSettings plan.environment
    let usual := Value.float (← Attempt.get).settings.actionTimeout
    let handlers ← handlersOr handlers
    installRegistry
      (Registry.start handlers (if timeout.isNull then usual else timeout) catalog)
  | .configured =>
    loadSettings plan.environment
    buildRegistry none
  | .application =>
    loadSettings plan.environment
    buildRegistry handlers
    openService

def setUp (plan : Plan) : Attempt Site Unit := do
  let handlers ← match plan.capabilities with
    | none => pure none
    | some capabilities => some <$> making (Handlers.registerHost capabilities)
  setUpRegistry plan handlers
  let settings := (← Attempt.get).settings
  let queue : Queue := {
    name := if plan.queueName.isEmpty then settings.queueName else plan.queueName
    leaseSeconds := plan.leaseSeconds.orElse (.int settings.leaseSeconds)
    fresh := false }
  onStation (Station.setWorker fun _ =>
    ⟨queue, settings.maxAttempts, plan.served, false, 0, none⟩)

/-- Moves the clock on; answers the new time. -/
def advance (seconds : Double) : Attempt Site Double := do
  let site ← Attempt.get
  let seconds := site.seconds.add seconds
  Attempt.set { site with seconds }
  return seconds

/-- Sets whether the store can be reached. -/
def connect (connection : Connection) : Attempt Site Unit :=
  onBroker (Attempt.modify ({ · with connection }))

/-- Reads an event from its text and puts it on the worker's queue. -/
def publishText (text : String) : Attempt Site (Option Message) := do
  let v ← Attempt.ofExcept ((Json.read text).mapError .json)
  let site ← Attempt.get
  let event ← onDesk (Desk.readEvent site.clock v)
  onBroker (site.station.worker.queue.publish site.seconds event (.int 0) true)

/-- Answers a request, with the queue that the settings name. -/
def request (request : Request) : Attempt Site Response := do
  openService
  let site ← Attempt.get
  onStation (Service.respond site.clock (Queue.ofSettings site.settings) request)

/-- Runs a worker of its own from the settings until the signal stops it. -/
def runWorker (signal : Signal) : Attempt Site Unit := do
  let site ← Attempt.get
  Attempt.ofExcept site.settings.checkLog
  let result ← Attempt.guarded do
    buildRegistry none
    onStation (Station.setWorker fun _ =>
      ⟨Queue.ofSettings site.settings, site.settings.maxAttempts, true, false, 0, none⟩)
    onStation (Station.start site.clock signal)
  Attempt.modify fun after =>
    { after with station := { after.station with
        desk := after.station.desk.withRegistry site.station.desk.registry
        worker := site.station.worker } }
  Attempt.ofExcept result

end Site

end CaseWorkflow
