import CaseWorkflow.Proofs.Queue.Standing
import CaseWorkflow.Proofs.Worker.Processing

/-!
# Guards under a worker

A worker does nothing to the store but by the operations of its queue, so the guard of an event
stands however many messages it processes.
-/

namespace CaseWorkflow

open Attempt

namespace Station

variable {q : Queue} {s t : Station} {id : String} {stop : Double} {clock : Clock} {α : Type}

/-- The worker has a queue of this name, and the guard of an event stands in the store. -/
structure Guarded (q : Queue) (id : String) (stop : Double) (s : Station) : Prop where
  name : s.worker.queue.name = q.name
  stands : q.Stands id stop s.broker

theorem preserves_onDesk (attempt : Attempt Desk α) :
    (onDesk attempt).Preserves (Keeping (Guarded q id stop)) := by
  intro s
  apply (Attempt.Ends.on (P := fun _ _ => True) trivial).mono
  rintro result t ⟨desk, rfl, -⟩ h
  exact ⟨h.name, h.stands⟩

theorem preserves_onBroker {attempt : Attempt Broker α}
    (h : attempt.Preserves (Keeping (q.Stands id stop))) :
    (onBroker attempt).Preserves (Keeping (Guarded q id stop)) := by
  intro s
  apply (Attempt.Ends.on (h s.broker)).mono
  rintro result t ⟨broker, rfl, hkept⟩ hguarded
  exact ⟨hguarded.name, hkept hguarded.stands⟩

theorem preserves_setWorker {f : Worker → Worker} (h : ∀ worker, (f worker).queue = worker.queue) :
    (setWorker f).Preserves (Keeping (Guarded q id stop)) :=
  preserves_modify fun s hguarded => ⟨by simpa only [h] using hguarded.name, hguarded.stands⟩

theorem preserves_setCurrent (message : Option Message) :
    (setCurrent message).Preserves (Keeping (Guarded q id stop)) :=
  preserves_setWorker fun _ => rfl

theorem preserves_report (execution : Execution) :
    (report execution).Preserves (Keeping (Guarded q id stop)) := by
  intro s
  exact (gives_report execution s).ends fun h => h

section Worker

variable {worker : Worker} {run : Runner} (hname : worker.queue.name = q.name)
include hname

theorem preserves_work (clock : Clock) (message : Message) (event : Event) :
    (work run clock worker.queue message event).Preserves (Keeping (Guarded q id stop)) := by
  apply (preserves_note _ _ _).bind
  intro _
  apply (preserves_onDesk (run event)).bind
  intro executions
  apply (preserves_forM preserves_report executions).bind
  intro _
  apply (preserves_onBroker (Queue.preserves_complete_stands hname _ message)).bind
  intro _
  exact preserves_setWorker fun _ => rfl

theorem preserves_settle (clock : Clock) (message : Message) (fault : Fault) :
    (settle clock worker message fault).Preserves (Keeping (Guarded q id stop)) := by
  apply (preserves_note _ _ _).bind
  intro _
  apply (preserves_ofExcept _).bind
  intro enough
  split
  · exact preserves_onBroker (Queue.preserves_bury_stands hname _ message _)
  · apply (preserves_onBroker (Queue.preserves_retry_stands hname _ message)).bind
    exact fun _ => preserves_pure ()

theorem preserves_attend (clock : Clock) (message : Message) (event : Event) :
    (attend run clock worker message event).Preserves (Keeping (Guarded q id stop)) := by
  apply (preserves_work hname clock message event).guarded.bind
  intro ended
  split
  next => exact (preserves_setCurrent none).bind fun _ => preserves_pure true
  next => exact (preserves_setCurrent none).bind fun _ => preserves_fail _
  next fault _ =>
    apply (preserves_settle hname clock message fault).guarded.bind
    intro settled
    apply (preserves_setCurrent none).bind
    intro _
    exact (preserves_ofExcept settled).bind fun _ => preserves_pure false

theorem preserves_receive (clock : Clock) (message : Message) :
    (receive run clock worker message).Preserves (Keeping (Guarded q id stop)) := by
  apply (preserves_setCurrent _).bind
  intro _
  apply (preserves_onDesk _).guarded.bind
  intro read
  split
  · apply (preserves_note _ _ _).bind
    intro _
    apply (preserves_onBroker (Queue.preserves_bury_stands hname _ message _)).bind
    intro _
    exact (preserves_setCurrent none).bind fun _ => preserves_pure _
  · exact preserves_fail _
  · exact (preserves_attend hname clock message _).bind fun _ => preserves_pure _

end Worker

/-- A worker leaves the guard standing. -/
theorem preserves_processOne (clock : Clock) :
    (processOne clock).Preserves (Keeping (Guarded q id stop)) := by
  apply preserves_keeping
  intro s h
  unfold processOne
  apply Ends.bind_ok (gives_get s)
  unfold processWith
  apply Ends.bind_ok (gives_get s)
  -- The queue is the one that the worker has now, so that its name is known.
  have hclaim : (onBroker (s.worker.queue.claim clock.seconds)).Preserves
      (Keeping (Guarded q id stop)) :=
    preserves_onBroker (Queue.preserves_claim_stands h.name clock.seconds)
  apply (hclaim s).bind
  · exact fun fault t hkept => hkept h
  intro claim t hkept
  cases claim with
  | nothing => exact (gives_pure _ t).ends (hkept h)
  | blank => exact (gives_pure _ t).ends (hkept h)
  | message m => exact (preserves_receive h.name clock m t).mono fun _ _ hlater => hlater (hkept h)

end Station

end CaseWorkflow
