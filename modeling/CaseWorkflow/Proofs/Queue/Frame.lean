import CaseWorkflow.Proofs.Queue.Store

/-!
# What the operations of a queue leave alone

Every command does to the store what a few changes do: it clears a mark that has ended,
puts a list or a schedule under a key, sets a mark, or takes away what a key holds.  What is
kept by each of the changes that an operation makes is kept by the operation, whatever
it comes to and whatever else the store holds.
-/

namespace CaseWorkflow

open Attempt

namespace Broker

variable {R : Broker → Broker → Prop} [IsPreorder Broker R] {now : Double} {key : String}

theorem preserves_check (text : String) : (check text).Preserves R := by
  unfold check
  split
  next => exact preserves_fail _
  next => exact preserves_pure _

/-- A look leaves the store that it answers. -/
theorem ends_look (b : Broker) (now : Double) (key : String) (wanted : Holding) :
    (look now key wanted).Ends b fun result t =>
      t = b.refreshed now key ∧ ∀ seen, result = .ok seen → seen = t := by
  unfold look
  apply Ends.bind_ok (gives_modify _ b)
  apply Ends.bind_ok (gives_get _)
  split
  next =>
    apply Ends.bind_error (gives_fail _ _)
    exact ⟨rfl, fun seen heq => by cases heq⟩
  next => exact (gives_pure _ _).ends ⟨rfl, fun seen heq => (Except.ok.inj heq).symm⟩

/-- What follows a look starts from the store that the look answers. -/
theorem preserves_look_bind {α : Type} {wanted : Holding} {next : Broker → Attempt Broker α}
    (hrefreshed : ∀ b, R b (b.refreshed now key))
    (hnext : ∀ b, (next b).Ends b fun _ t => R b t) :
    (look now key wanted >>= next).Preserves R := by
  intro b
  apply Preserves.bind_ends (P := fun seen t => seen = t)
  · apply (ends_look b now key wanted).mono
    rintro result t ⟨rfl, hseen⟩
    exact ⟨hrefreshed b, hseen⟩
  · rintro seen t rfl
    exact hnext seen

theorem preserves_texts (hrefreshed : ∀ b, R b (b.refreshed now key)) :
    (texts now key).Preserves R := by
  apply (preserves_check key).bind
  intro _
  exact preserves_look_bind hrefreshed fun b => preserves_pure _ b

theorem preserves_push (hrefreshed : ∀ b, R b (b.refreshed now key))
    (hlist : ∀ b texts, R b (b.withList key texts)) (text : String) :
    (push now key text).Preserves R := by
  apply (preserves_check key).bind
  intro _
  apply (preserves_check text).bind
  intro _
  exact preserves_look_bind hrefreshed fun b => (gives_set b _).ends (hlist b _)

theorem preserves_drop (hrefreshed : ∀ b, R b (b.refreshed now key))
    (hlist : ∀ b texts, R b (b.withList key texts)) (text : String) :
    (drop now key text).Preserves R := by
  apply (preserves_check key).bind
  intro _
  apply (preserves_check text).bind
  intro _
  exact preserves_look_bind hrefreshed fun b => (gives_set b _).ends (hlist b _)

theorem preserves_moveLast {target : String} (hrefreshed : ∀ b, R b (b.refreshed now key))
    (htarget : ∀ b, R b (b.refreshed now target))
    (hlists : ∀ b texts moved, R b ((b.withList key texts).withList target moved)) :
    (moveLast now key target).Preserves R := by
  apply (preserves_check key).bind
  intro _
  apply (preserves_check target).bind
  intro _
  apply preserves_look_bind hrefreshed
  intro b
  split
  next => exact preserves_pure _ b
  next text _ =>
    refine preserves_look_bind htarget (fun t => ?_) b
    apply Ends.bind_ok (gives_set t _)
    exact (gives_pure _ _).ends (hlists t _ _)

theorem preserves_entries (hrefreshed : ∀ b, R b (b.refreshed now key)) :
    (entries now key).Preserves R := by
  apply (preserves_check key).bind
  intro _
  exact preserves_look_bind hrefreshed fun b => preserves_pure _ b

theorem preserves_plan (hrefreshed : ∀ b, R b (b.refreshed now key))
    (hschedule : ∀ b schedule, R b (b.withSchedule key schedule)) (due : Double)
    (text : String) : (plan now key due text).Preserves R := by
  apply (preserves_check key).bind
  intro _
  apply (preserves_check text).bind
  intro _
  exact preserves_look_bind hrefreshed fun b => (gives_set b _).ends (hschedule b _)

theorem preserves_releaseDue {list : String} (hrefreshed : ∀ b, R b (b.refreshed now key))
    (hrefreshedList : ∀ b, R b (b.refreshed now list))
    (hschedule : ∀ b schedule, R b (b.withSchedule key schedule))
    (hlist : ∀ b texts, R b (b.withList list texts)) :
    (releaseDue now key list).Preserves R := by
  apply (preserves_entries hrefreshed).bind
  intro schedule
  dsimp only
  split
  next =>
    apply (preserves_modify fun b => hschedule b _).bind
    intro _
    exact preserves_look_bind hrefreshedList fun b => (gives_set b _).ends (hlist b _)
  next => exact preserves_pure ()

theorem preserves_mark (hmark : ∀ b stop, R b (b.withMark key stop)) (seconds : ℤ) :
    (mark now key seconds).Preserves R := by
  apply (preserves_check key).bind
  intro _
  apply (preserves_ofExcept _).bind
  exact fun stop => preserves_modify fun b => hmark b stop

theorem preserves_markFree (hrefreshed : ∀ b, R b (b.refreshed now key))
    (hmark : ∀ b stop, R b (b.withMark key stop)) (seconds : ℤ) :
    (markFree now key seconds).Preserves R := by
  apply (preserves_check key).bind
  intro _
  apply (preserves_ofExcept _).bind
  intro stop
  apply (preserves_modify hrefreshed).bind
  intro _ b
  apply Ends.bind_ok (gives_get b)
  split
  next => exact preserves_pure false b
  next => exact Ends.bind_ok (gives_set b _) ((gives_pure true _).ends (hmark b stop))

theorem preserves_holds (hrefreshed : ∀ b, R b (b.refreshed now key)) :
    (holds now key).Preserves R := by
  apply (preserves_check key).bind
  intro _
  apply (preserves_modify hrefreshed).bind
  intro _
  exact preserves_get.bind fun _ => preserves_pure _

theorem preserves_delete (hwithout : ∀ b, R b (b.without key)) : (delete key).Preserves R :=
  (preserves_check key).bind fun _ => preserves_modify hwithout

end Broker

namespace Queue

variable {q : Queue} {R : Broker → Broker → Prop} {now : Double} {m : Message}

theorem preserves_ask {α : Type} [IsPreorder Broker R] {command : Attempt Broker α}
    (h : command.Preserves R) : (q.ask command).Preserves R := by
  apply preserves_get.bind
  intro b
  split
  next => exact preserves_fail _
  next =>
    split
    next => exact preserves_fail _
    next => exact h
  next => exact h

/-- What is kept when the places of a queue change. -/
structure KeptByPlaces (q : Queue) (now : Double) (R : Broker → Broker → Prop) : Prop where
  preorder : IsPreorder Broker R
  refreshed : ∀ key ∈ q.placeKeys, ∀ b, R b (b.refreshed now key)
  list : ∀ key ∈ q.listKeys, ∀ b texts, R b (b.withList key texts)
  schedule : ∀ b schedule, R b (b.withSchedule q.delayed schedule)

namespace KeptByPlaces

variable (h : q.KeptByPlaces now R)
include h

theorem refreshedList {key : String} (hkey : key ∈ q.listKeys) (b : Broker) :
    R b (b.refreshed now key) :=
  h.refreshed key (mem_placeKeys_of_mem_listKeys hkey) b

theorem enqueue (event : Event) (message : Message) (delay : Value) :
    (q.enqueue now event message delay).Preserves R := by
  have := h.preorder
  have hdelayed : q.delayed ∈ q.placeKeys := mem_placeKeys_iff.mpr (.inl rfl)
  have hpending : q.pending ∈ q.listKeys := by simp [listKeys]
  apply (preserves_ofExcept _).bind
  rintro ⟨text, due?⟩
  cases due? with
  | some due =>
      apply (preserves_ask (Broker.preserves_plan (h.refreshed _ hdelayed) h.schedule due
        text)).bind
      exact fun _ => preserves_note _ _ _
  | none =>
      apply (preserves_ask (Broker.preserves_push (h.refreshedList hpending) (h.list _ hpending)
        text)).bind
      exact fun _ => preserves_note _ _ _

/-- A publish keeps what the setting of its guard keeps. -/
theorem publish_of_markFree {event : Event}
    (hissued : ∀ b : Broker, R b { b with issued := b.issued + 1 })
    (hmarkFree : (Broker.markFree now (q.guardOf event.id) guardSeconds).Preserves R)
    (delay : Value) (deduplicate : Bool) :
    (q.publish now event delay deduplicate).Preserves R := by
  have := h.preorder
  have hdraw : drawId.Preserves R := fun b =>
    Ends.bind_ok (gives_get b) (Ends.bind_ok (gives_set b _) ((gives_pure _ _).ends (hissued b)))
  have haccepted : ∀ message : Message, ∀ accepted : Bool, (if accepted then do
      q.enqueue now event message delay
      return some message
    else do
      Attempt.note .queue .info s!"Duplicate event {event.id} not queued"
      return none).Preserves R := by
    intro message accepted
    split
    next => exact (h.enqueue event message delay).bind fun _ => preserves_pure _
    next => exact (preserves_note _ _ _).bind fun _ => preserves_pure _
  apply hdraw.bind
  intro id
  dsimp only
  split
  next => exact (preserves_ask hmarkFree).bind (haccepted _)
  next => exact (preserves_pure true).bind (haccepted _)

theorem publish {event : Event} (hissued : ∀ b : Broker, R b { b with issued := b.issued + 1 })
    (hrefreshed : ∀ b, R b (b.refreshed now (q.guardOf event.id)))
    (hmark : ∀ b stop, R b (b.withMark (q.guardOf event.id) stop)) (delay : Value)
    (deduplicate : Bool) : (q.publish now event delay deduplicate).Preserves R := by
  have := h.preorder
  exact h.publish_of_markFree hissued (Broker.preserves_markFree hrefreshed hmark _) delay
    deduplicate

theorem releaseDue : (q.ask (Broker.releaseDue now q.delayed q.pending)).Preserves R := by
  have := h.preorder
  have hdelayed : q.delayed ∈ q.placeKeys := mem_placeKeys_iff.mpr (.inl rfl)
  have hpending : q.pending ∈ q.listKeys := by simp [listKeys]
  exact preserves_ask (Broker.preserves_releaseDue (h.refreshed _ hdelayed)
    (h.refreshedList hpending) h.schedule (h.list _ hpending))

theorem moveLast : (q.ask (Broker.moveLast now q.pending q.processing)).Preserves R := by
  have := h.preorder
  have hpending : q.pending ∈ q.listKeys := by simp [listKeys]
  have hprocessing : q.processing ∈ q.listKeys := by simp [listKeys]
  exact preserves_ask (Broker.preserves_moveLast (h.refreshedList hpending)
    (h.refreshedList hprocessing) fun b texts moved =>
      trans_of R (h.list _ hpending b texts) (h.list _ hprocessing _ moved))

theorem hold (hmark : ∀ b stop, R b (b.withMark (q.lease m.id) stop)) :
    (q.hold now m).Preserves R := by
  have := h.preorder
  have hseconds : ∀ seconds, (q.ask (Broker.mark now (q.lease m.id) seconds)).Preserves R :=
    fun seconds => preserves_ask (Broker.preserves_mark hmark seconds)
  unfold Queue.hold
  split
  next => exact hseconds _
  next =>
    split
    next => exact (preserves_ofExcept _).bind hseconds
    next => exact preserves_fail _
  next => exact (Broker.preserves_check _).bind fun _ => preserves_fail _
  next => exact preserves_fail _

theorem claim (hmark : ∀ b id stop, R b (b.withMark (q.lease id) stop)) :
    (q.claim now).Preserves R := by
  have := h.preorder
  apply h.releaseDue.bind
  intro _
  apply h.moveLast.bind
  intro text?
  split
  next => exact preserves_pure _
  next text =>
    split
    next => exact preserves_pure _
    next =>
      apply (preserves_ofExcept _).bind
      intro message
      apply (h.hold fun b stop => hmark b message.id stop).bind
      intro _
      exact (preserves_note _ _ _).bind fun _ => preserves_pure _

theorem release (hwithout : ∀ b, R b (b.without (q.lease m.id))) :
    (q.release now m).Preserves R := by
  have := h.preorder
  have hprocessing : q.processing ∈ q.listKeys := by simp [listKeys]
  have hdelete := preserves_ask (q := q) (Broker.preserves_delete hwithout)
  apply (preserves_ask (Broker.preserves_texts (h.refreshedList hprocessing))).bind
  intro texts
  apply (preserves_ofExcept _).bind
  intro text?
  split
  next text =>
    apply (preserves_ask (Broker.preserves_drop (h.refreshedList hprocessing)
      (h.list _ hprocessing) text)).bind
    exact fun _ => hdelete
  next => exact (preserves_pure ()).bind fun _ => hdelete

theorem retry (hwithout : ∀ b, R b (b.without (q.lease m.id))) :
    (q.retry now m).Preserves R := by
  have := h.preorder
  have hpending : q.pending ∈ q.listKeys := by simp [listKeys]
  apply (h.release hwithout).bind
  intro _
  apply (preserves_ofExcept _).bind
  intro next
  apply (preserves_ofExcept _).bind
  intro text
  apply (preserves_ask (Broker.preserves_push (h.refreshedList hpending) (h.list _ hpending)
    text)).bind
  intro _
  exact (preserves_note _ _ _).bind fun _ => preserves_pure _

theorem bury (hwithout : ∀ b, R b (b.without (q.lease m.id))) (reason : Value) :
    (q.bury now m reason).Preserves R := by
  have := h.preorder
  have hdead : q.dead ∈ q.listKeys := by simp [listKeys]
  apply (h.release hwithout).bind
  intro _
  apply (preserves_ofExcept _).bind
  intro text
  apply (preserves_ask (Broker.preserves_push (h.refreshedList hdead) (h.list _ hdead)
    text)).bind
  exact fun _ => preserves_note _ _ _

theorem returnExpired (hwithout : ∀ b, R b (b.without (q.lease m.id))) (limit : Value) :
    (q.returnExpired now limit m).Preserves R := by
  have := h.preorder
  apply (preserves_ofExcept _).bind
  intro enough
  split
  next => exact h.bury hwithout _
  next => exact (h.retry hwithout).bind fun _ => preserves_pure _

theorem requeueTexts (hrefreshed : ∀ b id, R b (b.refreshed now (q.lease id)))
    (hwithout : ∀ b id, R b (b.without (q.lease id))) (limit : Value) (texts : List String) :
    (q.requeueTexts now limit texts).Preserves R := by
  have := h.preorder
  induction texts with
  | nil => exact preserves_pure 0
  | cons text rest ih =>
      apply (preserves_ofExcept _).bind
      intro message
      apply (preserves_ask (Broker.preserves_holds fun b => hrefreshed b message.id)).bind
      intro held
      have hrest : ∀ _ : Unit, (do
          return (if held then 0 else 1) + (← q.requeueTexts now limit rest)).Preserves R :=
        fun _ => ih.bind fun _ => preserves_pure _
      dsimp only
      split
      next => exact (h.returnExpired (fun b => hwithout b message.id) limit).bind hrest
      next => exact (preserves_pure ()).bind hrest

theorem requeueExpired (hrefreshed : ∀ b id, R b (b.refreshed now (q.lease id)))
    (hwithout : ∀ b id, R b (b.without (q.lease id))) (limit : Value) :
    (q.requeueExpired now limit).Preserves R := by
  have := h.preorder
  have hprocessing : q.processing ∈ q.listKeys := by simp [listKeys]
  apply (preserves_ask (Broker.preserves_texts (h.refreshedList hprocessing))).bind
  exact fun texts => h.requeueTexts hrefreshed hwithout limit texts

end KeptByPlaces

end Queue

end CaseWorkflow
