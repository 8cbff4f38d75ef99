import CaseWorkflow.Worker.Basic

/-!
# The loops of the worker

The main loop processes messages until a signal stops it; the signal comes when the
queue is found empty.  The recovery loop puts back the messages whose lease has ended,
once a period.  A fault ends neither.
-/

namespace CaseWorkflow

inductive Signal where
  | interrupt
  | terminate
  deriving DecidableEq

def Signal.number : Signal → Nat
  | .interrupt => 2
  | .terminate => 15

namespace Station

/-- How often a message can be taken: once, and once more for each attempt that it has
left. -/
def deliveries (maxAttempts : Int) (text : String) : Nat :=
  match Message.decode text with
  | .error _ => 1
  | .ok message =>
    match message.attempt.number? with
    | some (.int attempt) => (max 1 (maxAttempts - attempt + 1)).toNat
    | some (.float attempt) =>
      ((attempt.round?.map fun attempt => (max 1 (maxAttempts - attempt + 2)).toNat)).getD 1
    | none => 1

/-- How many messages the main loop can take before its queue is empty. -/
def workload (station : Station) : Nat :=
  let queue := station.worker.queue
  let later := (station.broker.schedule queue.delayed).map Prod.snd
  (station.broker.list queue.pending ++ later).foldl
    (fun total text => total + deliveries station.worker.maxAttempts text) 0

def stop (signal : Signal) : Attempt Station Unit := do
  Attempt.note .worker .info s!"Received signal {signal.number}, initiating shutdown..."
  Attempt.note .worker .info "Stopping worker..."
  setWorker ({ · with running := false })

/-- Processes messages until the queue is found empty.  The workload and one more is
fuel enough. -/
def loop (clock : Clock) (signal : Signal) : Nat → Attempt Station Unit
  | 0 => pure ()
  | fuel + 1 => do
    match ← Attempt.guarded (processOne clock) with
    | .ok .idle => stop signal
    | .ok _ => loop clock signal fuel
    | .error fault =>
      Attempt.note .worker .error s!"Error in worker loop: {fault.message}"
      loop clock signal fuel

/-- Runs the main loop until a signal stops it. -/
def start (clock : Clock) (signal : Signal) : Attempt Station Unit := do
  setWorker ({ · with running := true })
  Attempt.note .worker .info "Worker started, waiting for events..."
  loop clock signal ((← Attempt.get).workload + 1)
  Attempt.note .worker .info "Worker stopped"

/-- One round of the recovery loop. -/
def recover (clock : Clock) : Attempt Station Unit := do
  let worker := (← Attempt.get).worker
  let attempt := onBroker (worker.queue.requeueExpired clock.seconds (.int worker.maxAttempts))
  match ← Attempt.guarded attempt with
  | .ok count =>
    if 0 < count then Attempt.note .worker .info s!"Requeued {count} expired messages"
  | .error fault => Attempt.note .worker .error s!"Error in recovery loop: {fault.message}"

/-- So many rounds of the recovery loop. -/
def recoverRounds (clock : Clock) : Nat → Attempt Station Unit
  | 0 => pure ()
  | rounds + 1 => do
    recover clock
    recoverRounds clock rounds

end Station

end CaseWorkflow
