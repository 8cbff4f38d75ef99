import CaseWorkflow.Proofs.Worker.Standing
import CaseWorkflow.Service.Basic

/-!
# Guards under the service

No route takes the guard of an event away before it ends: all of them work with the desk, but
for those that ask the store or put an event on the queue.
-/

namespace CaseWorkflow

open Attempt

namespace Service

variable {q : Queue} {id : String} {stop : Double} {clock : Clock}

theorem preserves_answering {attempt : Attempt Station Response}
    (h : attempt.Preserves (Keeping (Station.Guarded q id stop))) :
    (answering attempt).Preserves (Keeping (Station.Guarded q id stop)) := by
  apply h.guarded.bind
  intro ended
  split
  · exact preserves_pure _
  · exact preserves_pure _
  · exact preserves_pure _
  · exact preserves_pure _
  · exact preserves_fail _

theorem preserves_activateNamed (clock : Clock) (entries : Entries) :
    (activateNamed clock entries).Preserves (Keeping (Station.Guarded q id stop)) := by
  unfold activateNamed
  dsimp only
  split
  · exact (Station.preserves_onDesk _).bind fun _ => preserves_pure _
  · split
    · split
      · exact preserves_fail _
      · exact (Station.preserves_onDesk _).bind fun _ => preserves_pure _
    · exact preserves_pure _

theorem preserves_activate (clock : Clock) (data : Value) :
    (activate clock data).Preserves (Keeping (Station.Guarded q id stop)) := by
  unfold activate
  split
  · exact preserves_pure _
  · apply preserves_answering
    unfold bodyEntries
    split
    · exact preserves_activateNamed clock _
    · exact (preserves_fail _).bind fun _ => preserves_activateNamed clock _

theorem preserves_withEvent {next : Event → Attempt Station Response}
    (h : ∀ event, (next event).Preserves (Keeping (Station.Guarded q id stop))) (clock : Clock)
    (data : Value) :
    (withEvent clock data next).Preserves (Keeping (Station.Guarded q id stop)) := by
  unfold withEvent
  split
  · exact preserves_pure _
  · apply (Station.preserves_onDesk _).guarded.bind
    intro read
    split
    · exact h _
    · exact preserves_pure _
    · exact preserves_fail _

theorem preserves_enqueueEvent (hnow : clock.seconds.le stop = true) (data : Value) :
    (enqueueEvent clock q data).Preserves (Keeping (Station.Guarded q id stop)) := by
  apply preserves_withEvent
  intro event
  split
  · exact preserves_pure _
  · apply (Station.preserves_onBroker
      (Queue.preserves_publish_stands rfl hnow event _ true)).bind
    intro message?
    split
    · exact preserves_pure _
    · exact preserves_pure _

theorem preserves_ping (q p : Queue) :
    p.ping.Preserves (Keeping (q.Stands id stop)) := by
  have hask : (p.ask (pure ())).Preserves (Keeping (q.Stands id stop)) :=
    Queue.preserves_ask (preserves_pure ())
  unfold Queue.ping
  apply hask.guarded.bind
  intro answered
  split
  · exact preserves_pure _
  · exact (preserves_note _ _ _).bind fun _ => preserves_pure _
  · exact preserves_fail _

theorem preserves_health (q p : Queue) :
    (health p).Preserves (Keeping (Station.Guarded q id stop)) := by
  unfold health
  apply (Station.preserves_onBroker (preserves_ping q p)).guarded.bind
  intro answered
  exact preserves_get.bind fun _ => preserves_pure _

theorem preserves_body (request : Request) :
    (body request).Preserves (Keeping (Station.Guarded q id stop)) :=
  preserves_ofExcept _

theorem preserves_catalog : catalog.Preserves (Keeping (Station.Guarded q id stop)) := by
  unfold catalog
  exact preserves_get.bind fun _ => preserves_pure _

theorem preserves_listTemplates :
    listTemplates.Preserves (Keeping (Station.Guarded q id stop)) := by
  unfold listTemplates shown
  apply preserves_catalog.bind
  intro catalog
  exact (preserves_ofExcept _).bind fun _ => preserves_pure _

theorem preserves_showTemplate (name : String) :
    (showTemplate name).Preserves (Keeping (Station.Guarded q id stop)) := by
  unfold showTemplate
  apply preserves_answering
  apply preserves_catalog.bind
  intro catalog
  apply (preserves_ofExcept _).bind
  intro template
  exact (preserves_ofExcept _).bind fun _ => preserves_pure _

theorem preserves_listWorkflows (address : Address) :
    (listWorkflows address).Preserves (Keeping (Station.Guarded q id stop)) := by
  unfold listWorkflows
  exact preserves_get.bind fun _ => preserves_pure _

theorem preserves_answering_onDesk {α : Type} (attempt : Attempt Desk α)
    (response : α → Response) :
    (answering do return response (← Station.onDesk attempt)).Preserves
      (Keeping (Station.Guarded q id stop)) :=
  preserves_answering ((Station.preserves_onDesk attempt).bind fun _ => preserves_pure _)

theorem preserves_showWorkflow (name : String) :
    (showWorkflow name).Preserves (Keeping (Station.Guarded q id stop)) := by
  unfold showWorkflow
  exact preserves_answering_onDesk _ fun opened : Instance => .data 200 opened.toValue

theorem preserves_toggle (name : String) :
    (toggle name).Preserves (Keeping (Station.Guarded q id stop)) := by
  unfold toggle
  exact preserves_answering_onDesk _ fun opened : Instance => .data 200 opened.toValue

theorem preserves_remove (name : String) :
    (remove name).Preserves (Keeping (Station.Guarded q id stop)) := by
  unfold remove
  exact preserves_answering_onDesk _ fun _ => .noContent

theorem preserves_handleEvent (clock : Clock) (data : Value) :
    (handleEvent clock data).Preserves (Keeping (Station.Guarded q id stop)) :=
  preserves_withEvent (fun _ => (Station.preserves_onDesk _).bind fun _ => preserves_pure _) _ _

/-- No route takes the guard away before it ends. -/
theorem preserves_answer (hnow : clock.seconds.le stop = true) (request : Request)
    (address : Address) (route : Route) :
    (answer clock q request address route).Preserves (Keeping (Station.Guarded q id stop)) := by
  -- Only `health` and `eventQueue` reach the store.
  cases route with
  | templates => exact preserves_listTemplates
  | metadata => exact preserves_pure _
  | template name => exact preserves_showTemplate name
  | workflows =>
      simp only [answer]
      split
      · exact (preserves_body request).bind fun _ => preserves_activate clock _
      · exact preserves_listWorkflows address
  | workflow name =>
      simp only [answer]
      split
      · exact preserves_remove name
      · exact preserves_showWorkflow name
  | toggle name => exact preserves_toggle name
  | events => exact (preserves_body request).bind fun data => preserves_handleEvent clock data
  | eventQueue => exact (preserves_body request).bind fun data => preserves_enqueueEvent hnow data
  | health => exact preserves_health q q
  | staticFile => exact preserves_pure _
  | drill => exact preserves_fail _

theorem preserves_answerBy (hnow : clock.seconds.le stop = true) (request : Request)
    (address : Address) (route : Route) :
    (answerBy clock q request address route).Preserves (Keeping (Station.Guarded q id stop)) := by
  unfold answerBy
  split
  · exact preserves_pure _
  · have hprepared : (do ofExcept (← answer clock q request address route).forWeb :
        Attempt Station Response).Preserves (Keeping (Station.Guarded q id stop)) :=
      (preserves_answer hnow request address route).bind fun _ => preserves_ofExcept _
    apply hprepared.guarded.bind
    intro ended
    split
    · exact preserves_pure _
    · split
      · exact (preserves_note _ _ _).bind fun _ => preserves_pure _
      · exact preserves_pure _

theorem preserves_direct (hnow : clock.seconds.le stop = true) (request : Request)
    (address : Address) :
    (direct clock q request address).Preserves (Keeping (Station.Guarded q id stop)) := by
  unfold direct
  split
  next route _ => exact preserves_answerBy hnow request address route
  · exact preserves_pure _
  · exact preserves_pure _
  · exact preserves_pure _

theorem preserves_respond (hnow : clock.seconds.le stop = true) (request : Request) :
    (respond clock q request).Preserves (Keeping (Station.Guarded q id stop)) := by
  unfold respond
  apply (preserves_ofExcept _).bind
  intro address
  exact (preserves_direct hnow request address).bind fun _ => preserves_pure _

end Service

end CaseWorkflow
