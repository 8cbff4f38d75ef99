import CaseWorkflow.Proofs.Queue.Claiming
import CaseWorkflow.Proofs.Worker.Exhaustion

/-!
# Messages that a worker strands

A worker whose leases cannot be set takes one text after another and handles none.  Its main
loop ends when nothing is pending any more, and all of it stands with the claimed texts then.
-/

namespace CaseWorkflow

open Attempt

namespace Board

variable {now : Double} {places : Board} {text : String}

/-- The places after every text that is pending or due was claimed, and none was settled. -/
def drained (now : Double) (places : Board) : Board :=
  { places.released now with
    pending := []
    processing := (places.released now).pending ++ places.processing }

theorem claimed_of_getLast? (h : (places.released now).pending.getLast? = some text) :
    places.claimed now = { places.released now with
      pending := (places.released now).pending.dropLast
      processing := text :: places.processing } := by
  rw [claimed, taken, h]
  rfl

/-- A claim takes one of the texts that can be claimed, and the others remain. -/
theorem drained_claimed (h : places.next? now = some text) :
    (places.claimed now).drained now = places.drained now ∧
      ((places.claimed now).released now).pending.length + 1
        = (places.released now).pending.length := by
  have hpending := List.dropLast_append_getLast? text h
  rw [drained, drained, released_claimed, claimed_of_getLast? h]
  generalize places.released now = free at hpending ⊢
  constructor
  · have hmoved : free.pending.dropLast ++ text :: places.processing
        = free.pending ++ places.processing := by
      rw [← List.singleton_append, ← List.append_assoc, hpending]
    exact congrArg (fun processing => { free with pending := [], processing }) hmoved
  · exact (congrArg List.length hpending).symm ▸ by simp

theorem drained_of_next_none (h : places.next? now = none) :
    places.claimed now = places.drained now := by
  have hpending : (places.released now).pending = [] := List.getLast?_eq_none_iff.mp h
  have htaken : places.claimed now = places.released now := by
    rw [claimed, taken, hpending]
    rfl
  rw [htaken, drained, hpending]
  exact congrArg (fun pending => { places.released now with pending }) hpending

end Board

namespace Queue

variable {q : Queue} {b : Broker} {now : Double} {seconds : ℤ}

/-- A claim whose lease cannot be set takes the next text and answers no message. -/
theorem Tidy.ends_claim_unset (h : q.Tidy b) (hname : Text.Whole q.name)
    (hlease : q.leaseSeconds = .int seconds) (hnow : now ≠ .nan)
    (hunset : ∀ stop, markEnd now seconds ≠ .ok stop) :
    (q.claim now).Ends b fun result t =>
      q.Becomes b t ((q.board b).claimed now) ∧
        match (q.board b).next? now with
        | none => result = .ok .nothing
        | some text => (text = "" ∧ result = .ok .blank) ∨ ∃ fault, result = .error fault := by
  have hwhole := ends_claim_whole hlease hnow b
  rw [h.take_result hname now] at hwhole
  apply ((h.ends_claim now).and hwhole).mono
  rintro result t ⟨⟨hrefused, -⟩ | ⟨hbecomes, hanswers⟩, hiff, hmessage⟩
  · exact absurd hname hrefused
  refine ⟨hbecomes, ?_⟩
  cases hnext : (q.board b).next? now with
  | none =>
      rw [hnext] at hanswers
      exact hanswers
  | some text =>
      rw [hnext] at hanswers
      rcases result with fault | answer
      · exact .inr ⟨fault, rfl⟩
      rcases answer with _ | _ | m
      · rcases hanswers with ⟨-, heq⟩ | ⟨-, hread⟩
        · cases heq
        · split at hread <;> simp at hread
      · rcases hanswers with ⟨hempty, -⟩ | ⟨-, hread⟩
        · exact .inl ⟨hempty, rfl⟩
        · split at hread <;> simp at hread
      · obtain ⟨_, stop, -, -, hstop⟩ := hiff.mp (hmessage m rfl) text (congrArg Except.ok hnext)
        exact absurd hstop (hunset stop)

end Queue

namespace Station

variable {s : Station} {q : Queue} {clock : Clock} {seconds : ℤ}

/-! ## The main loop -/

/-- What is left when a worker has taken every text and handled none. -/
structure Stranded (q : Queue) (clock : Clock) (s : Station) (t : Station) : Prop where
  desk : t.desk = s.desk
  worker : t.worker = { s.worker with running := false }
  places : q.board t.broker = (q.board s.broker).drained clock.seconds

/-- A worker that cannot set a lease takes the next text and comes to nothing with it. -/
theorem ends_processOne_unset (h : q.Tidy s.broker) (hname : Text.Whole q.name)
    (hqueue : s.worker.queue = q) (hlease : q.leaseSeconds = .int seconds)
    (hnow : clock.seconds ≠ .nan) (hunset : ∀ stop, markEnd clock.seconds seconds ≠ .ok stop) :
    (processOne clock).Ends s fun result t =>
      (t.desk = s.desk ∧ t.worker = s.worker) ∧
        q.Becomes s.broker t.broker ((q.board s.broker).claimed clock.seconds) ∧
        match (q.board s.broker).next? clock.seconds with
        | none => result = .ok .idle
        | some _ => result = .ok .skipped ∨ ∃ fault, result = .error fault := by
  have hclaim := h.ends_claim_unset hname hlease hnow hunset
  unfold processOne
  apply Ends.bind_ok (gives_get s)
  unfold processWith
  apply Ends.bind_ok (gives_get s)
  dsimp only
  rw [hqueue]
  unfold onBroker
  apply (Ends.on hclaim).bind
  · rintro fault _ ⟨b, rfl, hbecomes, hresult⟩
    refine ⟨⟨rfl, rfl⟩, hbecomes, ?_⟩
    split at hresult
    next => cases hresult
    next => exact .inr ⟨fault, rfl⟩
  · rintro answer _ ⟨b, rfl, hbecomes, hresult⟩
    rcases answer with _ | _ | m
    · refine (gives_pure Progress.idle _).ends ⟨⟨rfl, rfl⟩, hbecomes, ?_⟩
      split at hresult
      next => rfl
      next => simp at hresult
    · refine (gives_pure Progress.skipped _).ends ⟨⟨rfl, rfl⟩, hbecomes, ?_⟩
      split at hresult
      next => cases hresult
      next => exact .inl rfl
    · split at hresult <;> simp at hresult

/-- The main loop of such a worker ends when it has taken everything. -/
theorem ends_loop_unset (signal : Signal) {fuel : ℕ} (h : q.Tidy s.broker)
    (hname : Text.Whole q.name) (hqueue : s.worker.queue = q)
    (hlease : q.leaseSeconds = .int seconds) (hnow : clock.seconds ≠ .nan)
    (hunset : ∀ stop, markEnd clock.seconds seconds ≠ .ok stop)
    (hfuel : ((q.board s.broker).released clock.seconds).pending.length < fuel) :
    (loop clock signal fuel).Ends s fun result t => result = .ok () ∧ Stranded q clock s t := by
  induction fuel generalizing s with
  | zero => omega
  | succ fuel ih =>
      unfold loop
      apply (ends_processOne_unset h hname hqueue hlease hnow hunset).guarded.bind
      · rintro fault t ⟨inner, heq, -⟩
        cases heq
      rintro _ t ⟨result, heq, ⟨hdesk, hworker⟩, hbecomes, hresult⟩
      obtain rfl := Except.ok.inj heq
      cases hnext : (q.board s.broker).next? clock.seconds with
      | none =>
          rw [hnext] at hresult
          obtain rfl := hresult
          apply Ends.bind_ok (gives_note _ _ _ t)
          apply Ends.bind_ok (gives_note _ _ _ t)
          refine (gives_setWorker _ t).ends ⟨rfl, hdesk, ?_, ?_⟩
          · exact congrArg (fun worker => { worker with running := false }) hworker
          · exact hbecomes.board.trans (Board.drained_of_next_none hnext)
      | some text =>
          obtain ⟨hdrained, hless⟩ := Board.drained_claimed hnext
          rw [hnext] at hresult
          have hrest : (loop clock signal fuel).Ends t fun result u =>
              result = .ok () ∧ Stranded q clock s u := by
            have hfuel : ((q.board t.broker).released clock.seconds).pending.length < fuel := by
              rw [hbecomes.board]
              omega
            apply (ih hbecomes.tidy (hworker ▸ hqueue) hfuel).mono
            rintro result u ⟨rfl, hstranded⟩
            refine ⟨rfl, hstranded.desk.trans hdesk, hworker ▸ hstranded.worker, ?_⟩
            rw [hstranded.places, hbecomes.board, hdrained]
          rcases hresult with rfl | ⟨fault, rfl⟩
          · exact hrest
          · exact Ends.bind_ok (gives_note _ _ _ t) hrest

/-- A worker that cannot set a lease stops in the end, with everything that could be claimed
among the claimed texts and nothing handled. -/
theorem ends_start_unset (signal : Signal) (h : q.Tidy s.broker) (hname : Text.Whole q.name)
    (hqueue : s.worker.queue = q) (hlease : q.leaseSeconds = .int seconds)
    (hnow : clock.seconds ≠ .nan) (hunset : ∀ stop, markEnd clock.seconds seconds ≠ .ok stop) :
    (start clock signal).Ends s fun result t => result = .ok () ∧ Stranded q clock s t := by
  subst hqueue
  unfold start
  apply Ends.bind_ok (gives_setWorker _ s)
  apply Ends.bind_ok (gives_note _ _ _ _)
  apply Ends.bind_ok (gives_get _)
  apply (ends_loop_unset (s := { s with worker := { s.worker with running := true } })
    signal h hname rfl hlease hnow hunset ?_).bind
  · rintro fault t ⟨heq, -⟩
    cases heq
  · rintro ⟨⟩ t ⟨-, hstranded⟩
    exact (gives_note _ _ _ t).ends ⟨rfl, hstranded.desk, hstranded.worker, hstranded.places⟩
  · have hlength := Board.length_pending_le_allowance s.worker.maxAttempts
      ((s.worker.queue.board s.broker).released clock.seconds)
    have hfuel := allowance_released_le_workload s clock.seconds
    exact Nat.lt_succ_of_le (hlength.trans hfuel)

end Station

namespace Queue

/-- A claim is whole if and only if what it takes can be read and its lease can be set.  No lease
is set that lasts no time; and where none can be set, a worker takes everything that can be
claimed, handles nothing, and stops. -/
theorem claim_whole_iff {q : Queue} {seconds : ℤ} (hlease : q.leaseSeconds = .int seconds) :
    (∀ b now, now ≠ .nan → (q.claim now).Ends b fun result t =>
      (q.Whole now b result t ↔
        ∀ text, ((q.take now).run b).result = .ok (some text) → q.Claimable now seconds text) ∧
      ∀ m, result = .ok (.message m) → q.Whole now b result t) ∧
    (seconds ≤ 0 → ∀ now stop, markEnd now seconds ≠ .ok stop) ∧
    ∀ s clock signal, s.worker.queue = q → q.Tidy s.broker → Text.Whole q.name →
      clock.seconds ≠ .nan → (∀ stop, markEnd clock.seconds seconds ≠ .ok stop) →
        (Station.start clock signal).Ends s fun result t =>
          result = .ok () ∧ Station.Stranded q clock s t :=
  ⟨fun b _ hnow => ends_claim_whole hlease hnow b, markEnd_ne_ok,
    fun _ _ signal hqueue htidy hname hnow hunset =>
      Station.ends_start_unset signal htidy hname hqueue hlease hnow hunset⟩

/-- A queue whose leases end before they begin. -/
def hastyQueue : Queue := ⟨"events", .int (-5), false⟩

/-- The store after the comment was published on that queue. -/
@[irreducible] def hastyStore : Broker :=
  ((hastyQueue.publish (Double.ofNat 0) commentEvent (.int 0) true).run Broker.empty).state

/-- The comment stands alone on the queue. -/
theorem published_hastyStore : ∃ m text,
    (hastyQueue.publish (Double.ofNat 0) commentEvent (.int 0) true).Gives Broker.empty
      (.ok (some m)) hastyStore ∧
    hastyQueue.Tidy hastyStore ∧ hastyQueue.board hastyStore = ⟨[text], [], [], []⟩ ∧ text ≠ "" := by
  have hadmits : hastyQueue.Admits Broker.empty (Double.ofNat 0) commentEvent.id
      (Double.ofNat 86400) :=
    ⟨by decide +kernel, toOption_eq_some_iff.mp (by decide +kernel), by decide +kernel⟩
  have hwrite : (Message.create s!"msg-{Broker.empty.issued + 1}" commentEvent
      (Double.ofNat 0)).write = .ok (Message.create s!"msg-{Broker.empty.issued + 1}" commentEvent
        (Double.ofNat 0)).encode := by
    rw [Message.write_eq_ok]
    exact ⟨⟨by decide +kernel, by decide +kernel⟩, rfl⟩
  obtain ⟨rest, hrest⟩ := Message.toList_encode_create s!"msg-{Broker.empty.issued + 1}"
    commentEvent (Double.ofNat 0)
  obtain ⟨t, hpublished, htidy, hboard⟩ := hastyQueue.tidy_empty.gives_publish_now hadmits hwrite
  obtain rfl : t = hastyStore := by
    unfold hastyStore
    exact hpublished.2.symm
  refine ⟨_, _, hpublished, htidy, hboard, fun hempty => ?_⟩
  rw [hempty] at hrest
  cases hrest

/-- A worker of that queue. -/
def hastyWorker : Worker := ⟨hastyQueue, 3, true, false, 0, none⟩

theorem claim_whole_iff_hasty :
    hastyQueue.leaseSeconds = .int (-5) ∧
      (Station.start ⟨Double.ofNat 0⟩ .terminate).Ends
        ⟨⟨Registry.start Handlers.empty (.int 30) none, 0, []⟩, hastyStore, hastyWorker⟩
        fun result t => result = .ok () ∧ t.worker.processed = 0 ∧
          (hastyQueue.board t.broker).pending = [] ∧
          (hastyQueue.board t.broker).processing = (hastyQueue.board hastyStore).pending := by
  obtain ⟨-, hunset, hstart⟩ := claim_whole_iff (q := hastyQueue) rfl
  obtain ⟨m, text, -, htidy, hboard, -⟩ := published_hastyStore
  refine ⟨rfl, ?_⟩
  apply (hstart ⟨_, hastyStore, hastyWorker⟩ ⟨Double.ofNat 0⟩ .terminate rfl htidy
    (by decide +kernel) (by decide +kernel) (hunset (by decide) _)).mono
  rintro result t ⟨rfl, -, hworker, hplaces⟩
  rw [hworker, hplaces, hboard]
  exact ⟨rfl, rfl, rfl, rfl⟩

/-- A claim can fail after it has taken a text that was published. -/
theorem exists_claim_not_whole :
    (∃ m, (hastyQueue.publish (Double.ofNat 0) commentEvent (.int 0) true).Gives Broker.empty
      (.ok (some m)) hastyStore) ∧
    (hastyQueue.board hastyStore).processing = [] ∧
    (hastyQueue.claim (Double.ofNat 0)).Ends hastyStore fun result t =>
      (∃ fault, result = .error fault) ∧ (hastyQueue.board t).pending = [] ∧
        (hastyQueue.board t).processing = (hastyQueue.board hastyStore).pending := by
  obtain ⟨m, text, hpublished, htidy, hboard, hfull⟩ := published_hastyStore
  have hnext : (hastyQueue.board hastyStore).next? (Double.ofNat 0) = some text := by
    rw [hboard]
    rfl
  refine ⟨⟨m, hpublished⟩, by rw [hboard], ?_⟩
  apply (htidy.ends_claim_unset (by decide +kernel) rfl (by decide +kernel)
    (markEnd_ne_ok (by decide) (Double.ofNat 0))).mono
  rintro result t ⟨hbecomes, hresult⟩
  rw [hnext] at hresult
  rw [hbecomes.board, hboard]
  exact ⟨hresult.resolve_left fun hblank => hfull hblank.1, rfl, rfl⟩

end Queue

end CaseWorkflow
