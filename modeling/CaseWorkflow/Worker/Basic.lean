import CaseWorkflow.Queue.Basic
import CaseWorkflow.Registry.Desk

/-!
# The worker

A worker takes one message at a time from its queue and runs the event through the
registry.  A message whose event cannot be read is given up at once.  A message whose
handling fails is delivered again until its attempts are used up; failed actions are
results and no such failure.
-/

namespace CaseWorkflow

structure Worker where
  queue : Queue
  maxAttempts : Int
  /-- Whether the registry answers at all. -/
  served : Bool
  running : Bool
  processed : Nat
  current : Option Message

/-- A worker with the registry and the store that it works with. -/
structure Station where
  desk : Desk
  broker : Broker
  worker : Worker

namespace Station

def onDesk {α : Type} (attempt : Attempt Desk α) : Attempt Station α :=
  Attempt.on desk (fun desk station => { station with desk }) attempt

def onBroker {α : Type} (attempt : Attempt Broker α) : Attempt Station α :=
  Attempt.on broker (fun broker station => { station with broker }) attempt

def setWorker (f : Worker → Worker) : Attempt Station Unit :=
  Attempt.modify fun station => { station with worker := f station.worker }

/-- Sets the message that is being worked on. -/
def setCurrent (message : Option Message) : Attempt Station Unit :=
  setWorker ({ · with current := message })

/-- Notes a failed run and failed actions. -/
def report (execution : Execution) : Attempt Station Unit := do
  match execution.error?, execution.detail? with
  | some error, some detail =>
    Attempt.note .worker .warning
      s!"Workflow {execution.workflow} failed: {Vocabulary.wire error}: {detail}"
  | _, _ => pure ()
  execution.failedActions.forM fun result =>
    Attempt.note .worker .warning
      (s!"Workflow {execution.workflow} action {result.kind.plainText} failed: "
        ++ (result.error?.map Vocabulary.wire).getD "unknown"
        ++ if result.timedOut then " (timed out)" else "")

/-- How the registry of a worker runs an event. -/
abbrev Runner := Event → Attempt Desk (List Execution)

/-- The registry of the worker, which may not answer. -/
def runner (clock : Clock) (worker : Worker) : Runner := fun event =>
  if worker.served then Desk.handle clock event else Attempt.fail .registryUnavailable

/-- Handles the event of a message and drops the message. -/
def work (run : Runner) (clock : Clock) (queue : Queue) (message : Message) (event : Event) :
    Attempt Station Unit := do
  Attempt.note .worker .info
    (s!"Processing event {event.id} ({Vocabulary.wire event.kind}) "
      ++ s!"from message {message.id.plainText}, attempt {message.attempt.plainText}")
  let executions ← onDesk (run event)
  executions.forM report
  onBroker (queue.complete clock.seconds message)
  setWorker fun worker => { worker with processed := worker.processed + 1 }

/-- Delivers a message again, or gives it up when its attempts are used up. -/
def settle (clock : Clock) (worker : Worker) (message : Message) (fault : Fault) :
    Attempt Station Unit := do
  Attempt.note .worker .error
    s!"Failed to process message {message.id.plainText}: {fault.message}"
  if ← Attempt.ofExcept (message.attempt.atLeast (.int worker.maxAttempts)) then
    onBroker (worker.queue.bury clock.seconds message (.text "max_attempts_exceeded"))
  else let _ ← onBroker (worker.queue.retry clock.seconds message)

/-- Handles the event of a message, and settles the message if that fails.  What is cancelled from
outside is let through, and the message stays claimed. -/
def attend (run : Runner) (clock : Clock) (worker : Worker) (message : Message) (event : Event) :
    Attempt Station Bool := do
  match ← Attempt.guarded (work run clock worker.queue message event) with
  | .ok () =>
    setCurrent none
    return true
  | .error .cancelled =>
    setCurrent none
    Attempt.fail .cancelled
  | .error fault =>
    let settled ← Attempt.guarded (settle clock worker message fault)
    setCurrent none
    Attempt.ofExcept settled
    return false

/-- What processing one message came to. -/
inductive Progress where
  | idle
  | skipped
  | failed
  | handled
  deriving DecidableEq

/-- Reads the event of a message and attends to it.  A message whose event is invalid is given
up. -/
def receive (run : Runner) (clock : Clock) (worker : Worker) (message : Message) :
    Attempt Station Progress := do
  setCurrent (some message)
  match ← Attempt.guarded (onDesk (Desk.readEvent clock message.event)) with
  | .error (.invalid invalid) =>
    Attempt.note .worker .error
      s!"Message {message.id.plainText} carries an invalid event: {invalid.message}"
    onBroker (worker.queue.bury clock.seconds message (.text "invalid_event"))
    setCurrent none
    return .skipped
  | .error fault => Attempt.fail fault
  | .ok event => return if ← attend run clock worker message event then .handled else .failed

/-- Takes one message from the queue and runs its event. -/
def processWith (run : Runner) (clock : Clock) : Attempt Station Progress := do
  let worker := (← Attempt.get).worker
  match ← onBroker (worker.queue.claim clock.seconds) with
  | .nothing => return .idle
  | .blank => return .skipped
  | .message message => receive run clock worker message

/-- Takes one message from the queue and works on it. -/
def processOne (clock : Clock) : Attempt Station Progress := do
  processWith (runner clock (← Attempt.get).worker) clock

/-- Whether the store answers the worker. -/
def isHealthy : Attempt Station Bool := do
  onBroker (← Attempt.get).worker.queue.ping

/-- The state of the worker as data. -/
def stats (clock : Clock) : Attempt Station Value := do
  let station ← Attempt.get
  let worker := station.worker
  let active := if worker.served then station.desk.registry.active.length else 0
  let depth ← onBroker (worker.queue.depth clock.seconds)
  return .object [
    ("running", .bool worker.running),
    ("processed", .int worker.processed),
    ("active_workflows", .int active),
    ("queue", depth),
    ("current_message", (worker.current.map Message.id).getD .null)]

end Station

end CaseWorkflow
