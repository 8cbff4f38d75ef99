import CaseWorkflow.Proofs.Queue.Claiming
import CaseWorkflow.Proofs.Queue.Window

/-!
# Guards that stand

Once a publish set the guard of an event, the guard stands to the end of its window, whatever
is done with the queue until then: no operation takes it away, and no publish of the event
renews it.  The store may hold anything else.
-/

namespace CaseWorkflow

open Attempt

namespace Queue

variable {q p : Queue} {b t : Broker} {now stop : Double} {id : String} {key : String}
variable {event : Event} {α : Type}

theorem Open.gives (h : q.Open b) {command : Attempt Broker α} {result : Except Fault α}
    (hgives : command.Gives b result t) : (q.ask command).Gives b result t := by
  have hends : command.Ends b fun answer u => answer = result ∧ u = t := hgives
  exact h.ask_gives hends

/-- A command is answered only by a store that answers. -/
theorem ends_ask {command : Attempt Broker α} {Q : Except Fault α → Broker → Prop}
    (hopen : q.Open b → command.Ends b Q) (hfault : ∀ fault, Q (.error fault) b) :
    (q.ask command).Ends b Q := by
  by_cases h : q.Open b
  · exact h.ask_gives (hopen h)
  · obtain ⟨fault, hrefused⟩ := ask_refused h command
    exact hrefused.ends (hfault fault)

/-- The store answers, and the guard of an event stands in it with this end. -/
structure Stands (q : Queue) (id : String) (stop : Double) (b : Broker) : Prop where
  answers : q.Open b
  mark : b.marks.lookup (q.guardOf id) = some stop

theorem Stands.isMarked (h : q.Stands id stop b) (hnow : now.le stop = true) :
    b.isMarked now (q.guardOf id) = true := by
  rw [Broker.isMarked, h.mark]
  exact hnow

theorem Stands.refreshed_eq (h : q.Stands id stop b) (hnow : now.le stop = true) :
    b.refreshed now (q.guardOf id) = b := by
  simp [Broker.refreshed, h.isMarked hnow]

theorem Stands.holding? (h : q.Stands id stop b) (hnow : now.le stop = true) :
    (b.holding? now (q.guardOf id)).isSome = true := by
  simp only [Broker.holding?, h.isMarked hnow]
  split
  · rfl
  · split <;> rfl

/-! ## Operations -/

/-- What leaves the connection and the guard leaves the guard standing. -/
theorem keeping_stands (hconnection : t.connection = b.connection)
    (hmark : t.marks.lookup (q.guardOf id) = b.marks.lookup (q.guardOf id)) :
    Keeping (q.Stands id stop) b t := fun h =>
  ⟨by simpa only [Open, hconnection] using h.answers, hmark.trans h.mark⟩

section OtherKeys

variable (hkey : q.guardOf id ≠ key)
include hkey

theorem keeping_refreshed (b : Broker) (now : Double) :
    Keeping (q.Stands id stop) b (b.refreshed now key) := by
  apply keeping_stands _ (Broker.lookup_marks_refreshed hkey)
  unfold Broker.refreshed
  split <;> rfl

theorem keeping_without (b : Broker) : Keeping (q.Stands id stop) b (b.without key) :=
  keeping_stands rfl (Broker.lookup_marks_without hkey)

theorem keeping_withMark (b : Broker) (other : Double) :
    Keeping (q.Stands id stop) b (b.withMark key other) := by
  have hmark : (b.withMark key other).marks.lookup (q.guardOf id)
      = b.marks.lookup (q.guardOf id) := by
    rw [Broker.lookup_marks_withMark, if_neg hkey]
  exact keeping_stands rfl hmark

end OtherKeys

theorem guardOf_of_name (hname : p.name = q.name) (id : String) : p.guardOf id = q.guardOf id := by
  simp only [guardOf, hname]

theorem keptByPlaces_stands (hname : p.name = q.name) (now : Double) :
    p.KeptByPlaces now (Keeping (q.Stands id stop)) where
  preorder := inferInstance
  refreshed key hkey b := by
    apply keeping_refreshed
    rw [← guardOf_of_name hname]
    exact fun heq => p.guardOf_not_mem_placeKeys id (heq ▸ hkey)
  list _ _ _ _ := keeping_stands rfl rfl
  schedule _ _ := keeping_stands rfl rfl

/-- A guard that stands is not set again. -/
theorem preserves_markFree_stands (hnow : now.le stop = true) (seconds : ℤ) :
    (Broker.markFree now (q.guardOf id) seconds).Preserves (Keeping (q.Stands id stop)) := by
  apply preserves_keeping
  intro b h
  unfold Broker.markFree
  by_cases hwhole : Text.Whole (q.guardOf id)
  swap
  · obtain ⟨fault, hrefused⟩ := gives_check_refused hwhole b
    exact Ends.bind_error hrefused h
  apply Ends.bind_ok (gives_check hwhole b)
  cases markEnd now seconds with
  | error fault => exact Ends.bind_error (gives_ofExcept _ b) h
  | ok other =>
      apply Ends.bind_ok (gives_ofExcept _ b)
      apply Ends.bind_ok (gives_modify _ b)
      apply Ends.bind_ok (gives_get _)
      rw [h.refreshed_eq hnow, if_pos (h.holding? hnow)]
      exact (gives_pure false b).ends h

theorem preserves_publish_stands (hname : p.name = q.name) (hnow : now.le stop = true)
    (event : Event) (delay : Value) (deduplicate : Bool) :
    (p.publish now event delay deduplicate).Preserves (Keeping (q.Stands id stop)) := by
  have hplaces : p.KeptByPlaces now (Keeping (q.Stands id stop)) := keptByPlaces_stands hname now
  have hissued : ∀ b : Broker, Keeping (q.Stands id stop) b { b with issued := b.issued + 1 } :=
    fun b => keeping_stands rfl rfl
  -- A publish of another event works on another key; one of this event finds its key taken.
  by_cases hsame : event.id = id
  · apply hplaces.publish_of_markFree hissued
    rw [guardOf_of_name hname, hsame]
    exact preserves_markFree_stands hnow _
  · have hkey : q.guardOf id ≠ p.guardOf event.id := by
      rw [guardOf_of_name hname, Ne, q.guardOf_injective.eq_iff]
      exact fun heq => hsame heq.symm
    exact hplaces.publish hissued (fun b => keeping_refreshed hkey b now)
      (fun b other => keeping_withMark hkey b other) delay deduplicate

section Leases

variable (hname : p.name = q.name)
include hname

theorem guardOf_ne_lease_of_name (id : String) (message : Value) :
    q.guardOf id ≠ p.lease message := by
  rw [← guardOf_of_name hname]
  exact p.guardOf_ne_lease id message

theorem preserves_claim_stands (now : Double) :
    (p.claim now).Preserves (Keeping (q.Stands id stop)) :=
  (keptByPlaces_stands hname now).claim fun b message other =>
    keeping_withMark (guardOf_ne_lease_of_name hname id message) b other

theorem preserves_complete_stands (now : Double) (m : Message) :
    (p.complete now m).Preserves (Keeping (q.Stands id stop)) :=
  (keptByPlaces_stands hname now).release fun b =>
    keeping_without (guardOf_ne_lease_of_name hname id m.id) b

theorem preserves_retry_stands (now : Double) (m : Message) :
    (p.retry now m).Preserves (Keeping (q.Stands id stop)) :=
  (keptByPlaces_stands hname now).retry fun b =>
    keeping_without (guardOf_ne_lease_of_name hname id m.id) b

theorem preserves_bury_stands (now : Double) (m : Message) (reason : Value) :
    (p.bury now m reason).Preserves (Keeping (q.Stands id stop)) :=
  (keptByPlaces_stands hname now).bury (fun b =>
    keeping_without (guardOf_ne_lease_of_name hname id m.id) b) reason

theorem preserves_requeueExpired_stands (now : Double) (limit : Value) :
    (p.requeueExpired now limit).Preserves (Keeping (q.Stands id stop)) :=
  (keptByPlaces_stands hname now).requeueExpired
    (fun b message => keeping_refreshed (guardOf_ne_lease_of_name hname id message) b now)
    (fun b message => keeping_without (guardOf_ne_lease_of_name hname id message) b) limit

end Leases

/-- What can be done with a queue. -/
inductive Deed where
  | publish (event : Event) (delay : Value) (deduplicate : Bool)
  | claim
  | complete (message : Message)
  | retry (message : Message)
  | bury (message : Message) (reason : Value)
  | requeue (limit : Value)

def perform (q : Queue) (now : Double) : Deed → Attempt Broker Unit
  | .publish event delay deduplicate => do
    let _ ← q.publish now event delay deduplicate
  | .claim => do
    let _ ← q.claim now
  | .complete m => q.complete now m
  | .retry m => do
    let _ ← q.retry now m
  | .bury m reason => q.bury now m reason
  | .requeue limit => do
    let _ ← q.requeueExpired now limit

/-- Whatever is done with the queue, a guard stands until it ends. -/
theorem preserves_perform_stands (hname : p.name = q.name) (hnow : now.le stop = true)
    (deed : Deed) : (p.perform now deed).Preserves (Keeping (q.Stands id stop)) := by
  cases deed with
  | publish event delay deduplicate =>
      exact (preserves_publish_stands hname hnow event delay deduplicate).bind
        fun _ => preserves_pure ()
  | claim => exact (preserves_claim_stands hname now).bind fun _ => preserves_pure ()
  | complete m => exact preserves_complete_stands hname now m
  | retry m => exact (preserves_retry_stands hname now m).bind fun _ => preserves_pure ()
  | bury m reason => exact preserves_bury_stands hname now m reason
  | requeue limit =>
      exact (preserves_requeueExpired_stands hname now limit).bind fun _ => preserves_pure ()

/-! ## Publishes -/

/-- A guard that could be set stands to the end of its window. -/
theorem ends_markFree_stands (q : Queue) (b : Broker) (now : Double) (id : String) :
    (q.ask (Broker.markFree now (q.guardOf id) guardSeconds)).Ends b fun result t =>
      result = .ok true → Text.Whole (q.guardOf id) ∧ q.Stands id (windowEnd now) t := by
  apply ends_ask
  swap
  · exact fun fault heq => by cases heq
  intro hopen
  unfold Broker.markFree
  by_cases hwhole : Text.Whole (q.guardOf id)
  swap
  · obtain ⟨fault, hrefused⟩ := gives_check_refused hwhole b
    exact Ends.bind_error hrefused fun heq => by cases heq
  apply Ends.bind_ok (gives_check hwhole b)
  cases hstop : markEnd now guardSeconds with
  | error fault => exact Ends.bind_error (gives_ofExcept _ b) fun heq => by cases heq
  | ok stop =>
      apply Ends.bind_ok (gives_ofExcept _ b)
      apply Ends.bind_ok (gives_modify _ b)
      apply Ends.bind_ok (gives_get _)
      split
      next => exact (gives_pure false _).ends fun heq => by cases heq
      next =>
        apply Ends.bind_ok (gives_set _ _)
        refine (gives_pure true _).ends fun _ => ⟨hwhole, ?_, ?_⟩
        · have hconnection : (b.refreshed now (q.guardOf id)).connection = b.connection := by
            unfold Broker.refreshed
            split <;> rfl
          simpa only [Open, Broker.withMark, Broker.without, hconnection] using hopen
        · rw [Broker.lookup_marks_withMark, if_pos rfl, eq_windowEnd hstop]

/-- A publish that goes through leaves the guard of its event standing. -/
theorem ends_publish_stands (q : Queue) (b : Broker) (now : Double) (event : Event)
    (delay : Value) :
    (q.publish now event delay true).Ends b fun result t => ∀ m, result = .ok (some m) →
      Text.Whole (q.guardOf event.id) ∧ q.Stands event.id (windowEnd now) t := by
  unfold publish
  apply Ends.bind_ok (gives_drawId b)
  apply (ends_markFree_stands q _ now event.id).bind
  · exact fun fault t _ m heq => by cases heq
  rintro accepted t ht
  cases accepted with
  | true =>
      obtain ⟨hwhole, hstands⟩ := ht rfl
      apply ((keptByPlaces_stands rfl now).enqueue event _ delay t).bind
      · exact fun fault u _ m heq => by cases heq
      · exact fun _ u hkept => (gives_pure _ u).ends fun _ _ => ⟨hwhole, hkept hstands⟩
  | false =>
      apply Ends.bind_ok (gives_note _ _ _ t)
      exact (gives_pure none t).ends fun m heq => by cases heq

/-- While its guard stands an event is a duplicate, and nothing is put on the queue. -/
theorem Stands.gives_publish {later : Double} (event : Event) (h : q.Stands event.id stop b)
    (hnow : now.le stop = true) (hwhole : Text.Whole (q.guardOf event.id))
    (hlater : markEnd now guardSeconds = .ok later) (delay : Value) :
    (q.publish now event delay true).Gives b (.ok none) { b with issued := b.issued + 1 } := by
  have hissued : q.Stands event.id stop { b with issued := b.issued + 1 } := ⟨h.answers, h.mark⟩
  have hrefused : (Broker.markFree now (q.guardOf event.id) guardSeconds).Gives
      { b with issued := b.issued + 1 } (.ok false) { b with issued := b.issued + 1 } := by
    unfold Broker.markFree
    apply (gives_check hwhole _).bind_ok
    rw [hlater]
    apply (gives_ofExcept _ _).bind_ok
    apply (gives_modify _ _).bind_ok
    apply (gives_get _).bind_ok
    rw [hissued.refreshed_eq hnow, if_pos (hissued.holding? hnow)]
    exact gives_pure false _
  unfold publish
  apply (gives_drawId b).bind_ok
  apply (hissued.answers.gives hrefused).bind_ok
  apply (gives_note _ _ _ _).bind_ok
  exact gives_pure none _

end Queue

end CaseWorkflow
