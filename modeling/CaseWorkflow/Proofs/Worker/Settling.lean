import CaseWorkflow.Proofs.Queue.RoundTrip
import CaseWorkflow.Proofs.Queue.Settling
import CaseWorkflow.Proofs.Registry.Isolation
import CaseWorkflow.Proofs.Registry.Steps
import CaseWorkflow.Proofs.Worker.Processing

/-!
# What a worker leaves of the message that it claims

A worker that can set its leases settles what it claims, whatever its registry comes to.  The
message is gone once its event was handled, stands with the dead ones if its event is invalid or
its attempts are used up, and is put back otherwise.
-/

namespace CaseWorkflow

open Attempt

/-- The places after a message was given up with its last attempt, or else put back. -/
def Board.returned (limit : ℤ) (m : Message) (k : ℕ) (places : Board) : Board :=
  if limit ≤ k then places.buried { m with reason := .text "max_attempts_exceeded" }.encode
  else places.queued { m with attempt := .int (k + 1 : ℕ) }.encode

theorem Board.processing_returned (limit : ℤ) (m : Message) (k : ℕ) (places : Board) :
    (places.returned limit m k).processing = places.processing := by
  unfold returned
  split <;> rfl

theorem Queue.Settled.since {q : Queue} {m : Message} {places : Board} {a b t : Broker}
    (h : q.Settled m places b t) (hissued : b.issued = a.issued)
    (hmarks : q.SameMarks [m.id] a b) : q.Settled m places a t :=
  ⟨⟨h.becomes.tidy, h.becomes.board, h.becomes.issued.trans hissued⟩,
    trans_of (q.SameMarks [m.id]) hmarks h.marks, h.lease⟩

namespace Station

variable {s t : Station} {clock : Clock} {q : Queue} {worker : Worker} {event : Event}
variable {m : Message} {text : String} {k : ℕ} {rest : Board} {run : Runner} {b : Broker}
variable {executions : List Execution} {desk after : Desk} {fault : Fault}

/-! ## The steps of a worker -/

theorem gives_work (hrun : (run event).Gives s.desk (.ok executions) after)
    (hcomplete : (q.complete clock.seconds m).Gives s.broker (.ok ()) b) :
    (work run clock q m event).Gives s (.ok ())
      { desk := after, broker := b,
        worker := { s.worker with processed := s.worker.processed + 1 } } := by
  unfold work
  apply (gives_note _ _ _ s).bind_ok
  apply (gives_onDesk hrun).bind_ok
  apply (gives_forM (fun execution => gives_report execution _) executions).bind_ok
  apply (gives_onBroker (s := { s with desk := after }) hcomplete).bind_ok
  exact gives_setWorker _ _

/-- If the registry fails, nothing was dropped yet. -/
theorem gives_work_error (hrun : (run event).Gives s.desk (.error fault) after) :
    (work run clock q m event).Gives s (.error fault) { s with desk := after } := by
  unfold work
  apply (gives_note _ _ _ s).bind_ok
  exact (gives_onDesk hrun).bind_error

/-- The worker with a message. -/
def busy (worker : Worker) (m : Message) : Worker := { worker with current := some m }

/-- The worker without a message. -/
def freed (worker : Worker) : Worker := { worker with current := none }

/-- The worker after it handled a message. -/
def rested (worker : Worker) : Worker :=
  { worker with processed := worker.processed + 1, current := none }

theorem gives_attend (hrun : (run event).Gives s.desk (.ok executions) after)
    (hcomplete : (worker.queue.complete clock.seconds m).Gives s.broker (.ok ()) b) :
    (attend run clock worker m event).Gives s (.ok true)
      { desk := after, broker := b, worker := rested s.worker } := by
  unfold attend
  apply (gives_work hrun hcomplete).guarded.bind_ok
  apply (gives_setCurrent none _).bind_ok
  exact gives_pure true _

theorem gives_attend_cancelled (hrun : (run event).Gives s.desk (.error .cancelled) after) :
    (attend run clock worker m event).Gives s (.error .cancelled)
      { s with desk := after, worker := freed s.worker } := by
  unfold attend
  apply (gives_work_error hrun).guarded.bind_ok
  apply (gives_setCurrent none _).bind_ok
  exact gives_fail _ _

theorem gives_attend_failed (hrun : (run event).Gives s.desk (.error fault) after)
    (hfault : fault ≠ .cancelled)
    (hsettle : (settle clock worker m fault).Gives { s with desk := after } (.ok ())
      { s with desk := after, broker := b }) :
    (attend run clock worker m event).Gives s (.ok false)
      { desk := after, broker := b, worker := freed s.worker } := by
  unfold attend
  apply (gives_work_error hrun).guarded.bind_ok
  split
  next heq => cases heq
  next heq => exact absurd (Except.error.inj heq) hfault
  next other _ heq =>
    obtain rfl := Except.error.inj heq
    apply hsettle.guarded.bind_ok
    apply (gives_setCurrent none _).bind_ok
    apply (gives_ofExcept _ _).bind_ok
    exact gives_pure false _

/-- A message whose event was read is attended to. -/
theorem gives_receive {result : Except Fault Bool}
    (hread : (Desk.readEvent clock m.event).Gives s.desk (.ok event) desk)
    (hattend : (attend run clock worker m event).Gives { s with desk, worker := busy s.worker m }
      result t) :
    (receive run clock worker m).Gives s
      (result.map fun handled => if handled then .handled else .failed) t := by
  have hevent : (onDesk (Desk.readEvent clock m.event)).Gives { s with worker := busy s.worker m }
      (.ok event) { s with desk, worker := busy s.worker m } := gives_onDesk hread
  unfold receive
  apply (gives_setCurrent (some m) s).bind_ok
  apply hevent.guarded.bind_ok
  cases result with
  | error fault => exact hattend.bind_error
  | ok handled => exact hattend.bind_ok (gives_pure _ t)

/-- A message whose event is invalid is given up, and the registry is not asked. -/
theorem gives_receive_invalid {problem : Problem}
    (hread : Event.Draft.read m.event = .error problem)
    (hbury : (worker.queue.bury clock.seconds m (.text "invalid_event")).Gives s.broker (.ok ())
      b) :
    (receive run clock worker m).Gives s (.ok .skipped)
      { s with broker := b, worker := freed s.worker } := by
  have hinvalid : (Desk.readEvent clock m.event).Gives s.desk
      (.error (.invalid (.single problem))) s.desk := by
    unfold Desk.readEvent
    rw [hread]
    exact gives_fail _ _
  have hevent : (onDesk (Desk.readEvent clock m.event)).Gives { s with worker := busy s.worker m }
      (.error (.invalid (.single problem))) { s with worker := busy s.worker m } :=
    gives_onDesk hinvalid
  have hburied : (onBroker (worker.queue.bury clock.seconds m (.text "invalid_event"))).Gives
      { s with worker := busy s.worker m } (.ok ())
      { s with broker := b, worker := busy s.worker m } := gives_onBroker hbury
  unfold receive
  apply (gives_setCurrent (some m) s).bind_ok
  apply hevent.guarded.bind_ok
  apply (gives_note _ _ _ _).bind_ok
  apply hburied.bind_ok
  exact (gives_setCurrent none _).bind_ok (gives_pure _ _)

theorem gives_processWith {result : Except Fault Progress}
    (hclaim : (s.worker.queue.claim clock.seconds).Gives s.broker (.ok (.message m)) b)
    (hreceive : (receive run clock s.worker m).Gives { s with broker := b } result t) :
    (processWith run clock).Gives s result t := by
  unfold processWith
  apply (gives_get s).bind_ok
  exact (gives_onBroker hclaim).bind_ok hreceive

theorem gives_processWith_nothing
    (hclaim : (s.worker.queue.claim clock.seconds).Gives s.broker (.ok .nothing) b) :
    (processWith run clock).Gives s (.ok .idle) { s with broker := b } := by
  unfold processWith
  apply (gives_get s).bind_ok
  exact (gives_onBroker hclaim).bind_ok (gives_pure _ _)

theorem gives_processWith_error
    (hclaim : (s.worker.queue.claim clock.seconds).Gives s.broker (.error fault) b) :
    (processWith run clock).Gives s (.error fault) { s with broker := b } := by
  unfold processWith
  apply (gives_get s).bind_ok
  exact (gives_onBroker hclaim).bind_error

/-- A worker processes with its own registry. -/
theorem run_processOne (clock : Clock) (s : Station) :
    (processOne clock).run s = (processWith (runner clock s.worker) clock).run s := by
  unfold processOne
  exact run_bind_of_run rfl rfl

theorem gives_processOne {result : Except Fault Progress}
    (h : (processWith (runner clock s.worker) clock).Gives s result t) :
    (processOne clock).Gives s result t := by
  rw [Gives, run_processOne]
  exact h

/-! ## Settling what was claimed -/

/-- What a worker needs to settle what it claims: the store answers, all texts were written by a
queue, the clock shows a moment, the end of a lease can be counted, and every attempt up to the
limit can be written. -/
structure Ready (s : Station) (q : Queue) (clock : Clock) : Prop where
  queue : s.worker.queue = q
  name : Text.Whole q.name
  tidy : q.Tidy s.broker
  written : ∀ text ∈ (q.board s.broker).texts, Message.Written text
  lease : ∃ seconds stop, q.leaseSeconds = .int seconds ∧ markEnd clock.seconds seconds = .ok stop
  moment : ∃ now, clock.moment = .ok now
  limit : s.worker.maxAttempts < Message.attemptLimit

/-- A message whose handling failed is settled by its attempts. -/
theorem gives_settle (h : q.Held s.broker text m k rest) (hqueue : worker.queue = q)
    (hlimit : worker.maxAttempts < Message.attemptLimit) (clock : Clock) (fault : Fault) :
    ∃ b, (settle clock worker m fault).Gives s (.ok ()) { s with broker := b } ∧
      q.Settled m (rest.returned worker.maxAttempts m k) s.broker b := by
  have hless : m.attempt.atLeast (.int worker.maxAttempts)
      = .ok (decide (worker.maxAttempts ≤ k)) := by
    rw [h.reads.attempt]
    exact Value.atLeast_int k worker.maxAttempts
  unfold settle Board.returned
  rw [hqueue, hless]
  by_cases hlast : worker.maxAttempts ≤ k
  · obtain ⟨b, hbury, hsettled⟩ := (h.located.ends_bury clock.seconds "max_attempts_exceeded").gives
    rw [if_pos hlast, decide_eq_true hlast]
    refine ⟨b, ?_, hsettled⟩
    apply (gives_note _ _ _ s).bind_ok
    apply (gives_ofExcept _ s).bind_ok
    exact gives_onBroker hbury
  · obtain ⟨b, hretry, hsettled⟩ := (h.located.ends_retry clock.seconds (by omega)).gives
    rw [if_neg hlast, decide_eq_false hlast]
    refine ⟨b, ?_, hsettled⟩
    apply (gives_note _ _ _ s).bind_ok
    apply (gives_ofExcept _ s).bind_ok
    exact (gives_onBroker hretry).bind_ok (gives_pure () _)

/-- The message that is taken next, for one of its attempts. -/
def Takes (q : Queue) (clock : Clock) (b : Broker) (text : String) (m : Message) (k : ℕ) : Prop :=
  (q.board b).next? clock.seconds = some text ∧ Message.Reads text m k

/-- The registry was asked for the event of the message, and this is what it came to. -/
def Asked (run : Runner) (clock : Clock) (before : Desk) (m : Message)
    (result : Except Fault (List Execution)) (after : Desk) : Prop :=
  ∃ event desk, (Desk.readEvent clock m.event).Gives before (.ok event) desk ∧
    (run event).Gives desk result after

/-- What processing comes to, and what it leaves. -/
inductive Processed (q : Queue) (run : Runner) (clock : Clock) (s : Station) :
    Except Fault Progress → Station → Prop
  | idle {b : Broker} (hnone : (q.board s.broker).next? clock.seconds = none)
      (hplaces : q.Becomes s.broker b ((q.board s.broker).released clock.seconds))
      (hmarks : q.SameMarks [] s.broker b)
      (hunasked : ∀ other, (processWith other clock).Gives s (.ok .idle) { s with broker := b }) :
      Processed q run clock s (.ok .idle) { s with broker := b }
  | skipped {text : String} {m : Message} {k : ℕ} {problem : Problem} {b : Broker}
      (htakes : Takes q clock s.broker text m k)
      (hinvalid : Event.Draft.read m.event = .error problem)
      (hsettled : q.Settled m (((q.board s.broker).withoutNext clock.seconds).buried
        { m with reason := .text "invalid_event" }.encode) s.broker b)
      (hunasked : ∀ other, (processWith other clock).Gives s (.ok .skipped)
        { s with broker := b, worker := freed s.worker }) :
      Processed q run clock s (.ok .skipped) { s with broker := b, worker := freed s.worker }
  | handled {text : String} {m : Message} {k : ℕ} {executions : List Execution} {after : Desk}
      {b : Broker} (htakes : Takes q clock s.broker text m k)
      (hasked : Asked run clock s.desk m (.ok executions) after)
      (hsettled : q.Settled m ((q.board s.broker).withoutNext clock.seconds) s.broker b) :
      Processed q run clock s (.ok .handled) ⟨after, b, rested s.worker⟩
  | failed {text : String} {m : Message} {k : ℕ} {fault : Fault} {after : Desk} {b : Broker}
      (htakes : Takes q clock s.broker text m k)
      (hasked : Asked run clock s.desk m (.error fault) after) (hfault : fault ≠ .cancelled)
      (hsettled : q.Settled m
        (((q.board s.broker).withoutNext clock.seconds).returned s.worker.maxAttempts m k)
        s.broker b) :
      Processed q run clock s (.ok .failed) ⟨after, b, freed s.worker⟩
  | cancelled {text : String} {m : Message} {k : ℕ} {after : Desk} {b : Broker}
      (htakes : Takes q clock s.broker text m k)
      (hasked : Asked run clock s.desk m (.error .cancelled) after)
      (hplaces : q.Becomes s.broker b ((q.board s.broker).claimed clock.seconds))
      (hmarks : q.SameMarks [m.id] s.broker b) :
      Processed q run clock s (.error .cancelled) ⟨after, b, freed s.worker⟩

/-- What comes to an end leaves the claimed texts as they were, and a worker without a message
without one. -/
theorem Processed.restores {result : Except Fault Progress} {progress : Progress}
    (h : Processed q run clock s result t) (hresult : result = .ok progress) :
    (q.board t.broker).processing = (q.board s.broker).processing ∧
      (s.worker.current = none → t.worker.current = none) := by
  cases h with
  | idle _ hplaces => exact ⟨(congrArg Board.processing hplaces.board :), id⟩
  | skipped _ _ hsettled =>
      exact ⟨(congrArg Board.processing hsettled.becomes.board :), fun _ => rfl⟩
  | handled _ _ hsettled =>
      exact ⟨(congrArg Board.processing hsettled.becomes.board :), fun _ => rfl⟩
  | failed _ _ _ hsettled =>
      have hplaces := congrArg Board.processing hsettled.becomes.board
      rw [Board.processing_returned] at hplaces
      exact ⟨hplaces, fun _ => rfl⟩
  | cancelled => cases hresult

/-- If the registry is not cancelled, processing comes to an end. -/
theorem Processed.exists_ok {result : Except Fault Progress}
    (h : Processed q run clock s result t)
    (hnever : ∀ event desk, ((run event).run desk).result ≠ .error .cancelled) :
    ∃ progress, result = .ok progress := by
  cases h with
  | idle | skipped | handled | failed => exact ⟨_, rfl⟩
  | cancelled _ hasked =>
      obtain ⟨event, desk, -, hrun⟩ := hasked
      exact absurd hrun.1 (hnever event desk)

section Settles

variable (h : s.Ready q clock)
include h

theorem Ready.processed_idle (hnone : (q.board s.broker).next? clock.seconds = none)
    (run : Runner) : (processWith run clock).Ends s (Processed q run clock s) := by
  obtain ⟨b, hclaim, hplaces, hmarks⟩ := (h.tidy.ends_claim_none h.name hnone).gives
  rw [← h.queue] at hclaim
  exact (gives_processWith_nothing hclaim).ends
    (.idle hnone hplaces hmarks fun other => gives_processWith_nothing hclaim)

/-- What is taken is claimed as a message, whose text stands before all others. -/
theorem Ready.gives_claim (htakes : Takes q clock s.broker text m k) :
    ∃ b, (s.worker.queue.claim clock.seconds).Gives s.broker (.ok (.message m)) b ∧
      q.Held b text m k ((q.board s.broker).withoutNext clock.seconds) ∧
      b.issued = s.broker.issued ∧ q.SameMarks [m.id] s.broker b := by
  obtain ⟨seconds, stop, hlease, hstop⟩ := h.lease
  rw [h.queue]
  exact (h.tidy.ends_claim_held h.name h.written htakes.1 htakes.2 hlease hstop).gives

theorem Ready.exists_takes (hnext : (q.board s.broker).next? clock.seconds = some text) :
    ∃ m k, Takes q clock s.broker text m k := by
  have hwaits : text ∈ (q.board s.broker).waiting :=
    (Board.claimed_of_next hnext).1.mem_iff.mpr List.mem_cons_self
  obtain ⟨m, k, hreads⟩ := (h.written text (Board.mem_texts.mpr (.inl hwaits))).exists_reads
  exact ⟨m, k, hnext, hreads⟩

theorem Ready.processed_skipped (htakes : Takes q clock s.broker text m k) {problem : Problem}
    (hinvalid : Event.Draft.read m.event = .error problem) (run : Runner) :
    (processWith run clock).Ends s (Processed q run clock s) := by
  obtain ⟨b, hclaim, hheld, hissued, hmarks⟩ := h.gives_claim htakes
  obtain ⟨c, hbury, hsettled⟩ := (hheld.located.ends_bury clock.seconds "invalid_event").gives
  rw [← h.queue] at hbury
  have hprocess : ∀ other, (processWith other clock).Gives s (.ok .skipped)
      { s with broker := c, worker := freed s.worker } := fun other =>
    gives_processWith hclaim (gives_receive_invalid hinvalid hbury)
  exact (hprocess run).ends (.skipped htakes hinvalid (hsettled.since hissued hmarks) hprocess)

/-- A message whose event can be read is read, if need be with a new id and the time of the
clock. -/
theorem Ready.exists_read {draft : Event.Draft} (hdraft : Event.Draft.read m.event = .ok draft) :
    ∃ event desk, (Desk.readEvent clock m.event).Gives s.desk (.ok event) desk := by
  obtain ⟨now, hclock⟩ := h.moment
  obtain ⟨moment, hstamp⟩ := Desk.exists_stamp hclock draft
  have hread := Desk.gives_readEvent hdraft clock s.desk
  rw [hstamp] at hread
  exact ⟨_, _, hread⟩

theorem Ready.processed_handled (htakes : Takes q clock s.broker text m k)
    (hread : (Desk.readEvent clock m.event).Gives s.desk (.ok event) desk)
    (hrun : (run event).Gives desk (.ok executions) after) :
    (processWith run clock).Ends s (Processed q run clock s) := by
  obtain ⟨b, hclaim, hheld, hissued, hmarks⟩ := h.gives_claim htakes
  obtain ⟨c, hcomplete, hsettled⟩ := (hheld.located.ends_complete clock.seconds).gives
  rw [← h.queue] at hcomplete
  have hattend := gives_attend (s := ⟨desk, b, busy s.worker m⟩) hrun hcomplete
  exact (gives_processWith hclaim (gives_receive hread hattend)).ends
    (.handled htakes ⟨event, desk, hread, hrun⟩ (hsettled.since hissued hmarks))

theorem Ready.processed_failed (htakes : Takes q clock s.broker text m k)
    (hread : (Desk.readEvent clock m.event).Gives s.desk (.ok event) desk)
    (hrun : (run event).Gives desk (.error fault) after) (hfault : fault ≠ .cancelled) :
    (processWith run clock).Ends s (Processed q run clock s) := by
  obtain ⟨b, hclaim, hheld, hissued, hmarks⟩ := h.gives_claim htakes
  obtain ⟨c, hsettle, hsettled⟩ := gives_settle (s := ⟨after, b, busy s.worker m⟩) hheld h.queue
    h.limit clock fault
  have hattend := gives_attend_failed (s := ⟨desk, b, busy s.worker m⟩) hrun hfault hsettle
  exact (gives_processWith hclaim (gives_receive hread hattend)).ends
    (.failed htakes ⟨event, desk, hread, hrun⟩ hfault (hsettled.since hissued hmarks))

theorem Ready.processed_cancelled (htakes : Takes q clock s.broker text m k)
    (hread : (Desk.readEvent clock m.event).Gives s.desk (.ok event) desk)
    (hrun : (run event).Gives desk (.error .cancelled) after) :
    (processWith run clock).Ends s (Processed q run clock s) := by
  obtain ⟨b, hclaim, hheld, hissued, hmarks⟩ := h.gives_claim htakes
  have hattend : (attend run clock s.worker m event).Gives ⟨desk, b, busy s.worker m⟩
      (.error .cancelled) ⟨after, b, freed s.worker⟩ := gives_attend_cancelled hrun
  have hplaces : q.Becomes s.broker b ((q.board s.broker).claimed clock.seconds) := by
    refine ⟨hheld.tidy, ?_, hissued⟩
    rw [hheld.board, Queue.withoutNext_claimed htakes.1]
    rfl
  exact (gives_processWith hclaim (gives_receive hread hattend)).ends
    (.cancelled htakes ⟨event, desk, hread, hrun⟩ hplaces hmarks)

theorem Ready.ends_processed (run : Runner) :
    (processWith run clock).Ends s (Processed q run clock s) := by
  cases hnext : (q.board s.broker).next? clock.seconds with
  | none => exact h.processed_idle hnext run
  | some text =>
      obtain ⟨m, k, htakes⟩ := h.exists_takes hnext
      cases hdraft : Event.Draft.read m.event with
      | error problem => exact h.processed_skipped htakes hdraft run
      | ok draft =>
          obtain ⟨event, desk, hread⟩ := h.exists_read hdraft
          -- Nothing is known of the registry: whatever it comes to is one of three cases.
          obtain ⟨result, after, hrun⟩ : ∃ result after, (run event).Gives desk result after :=
            ⟨_, _, rfl, rfl⟩
          rcases result with fault | executions
          · by_cases hfault : fault = .cancelled
            · exact h.processed_cancelled htakes hread (hfault ▸ hrun)
            · exact h.processed_failed htakes hread hrun hfault
          · exact h.processed_handled htakes hread hrun

end Settles

/-- Whatever the registry comes to, a worker settles what it claims. -/
theorem process_settles (h : s.Ready q clock) (run : Runner) :
    ((processWith run clock).Ends s fun result t => Processed q run clock s result t ∧
      ∀ progress, result = .ok progress →
        (q.board t.broker).processing = (q.board s.broker).processing ∧
          (s.worker.current = none → t.worker.current = none)) ∧
      (processOne clock).run s = (processWith (runner clock s.worker) clock).run s := by
  refine ⟨?_, run_processOne clock s⟩
  exact (h.ends_processed run).mono fun result t hends => ⟨hends, fun _ => hends.restores⟩

/-! ## A hearing that waits -/

/-- A hearing waits in the store, and a worker that asks for leases of so many seconds is at
rest. -/
def laden (broker : Broker) (leaseSeconds : ℤ) : Station where
  desk := Desk.opened Handlers.empty .null none
  broker := broker
  worker := ⟨⟨"events", .int leaseSeconds, false⟩, 3, true, false, 0, none⟩

/-- The text of a hearing was published to the store, and nothing else. -/
structure Loaded (b : Broker) (text : String) (m : Message) : Prop where
  published : (Queue.minuteQueue.publish (Double.ofNat 0) Message.hearingEvent (.int 0) true).Gives
    Broker.empty (.ok (some m)) b
  tidy : Queue.minuteQueue.Tidy b
  board : Queue.minuteQueue.board b = ⟨[text], [], [], []⟩
  written : Message.Written text
  read : Message.decode text = .ok m
  event : ∀ clock desk, (Desk.readEvent clock m.event).Gives desk (.ok Message.hearingEvent) desk

theorem exists_loaded : ∃ b text m, Loaded b text m ∧ m.attempt = .int 1 := by
  have hwhole : Text.Whole s!"msg-{Broker.empty.issued + 1}" :=
    (Message.ascii_idText _).not_isHalf
  obtain ⟨hwrite, hdecode⟩ := Message.decode_hearingMessage (Broker.empty.issued + 1)
    (Double.ofNat 0) (Message.lt_attemptLimit (show 1 < 10 by decide))
  have hadmits : Queue.minuteQueue.Admits Broker.empty (Double.ofNat 0) Message.hearingEvent.id
      (Double.ofNat 86400) :=
    ⟨by decide +kernel, toOption_eq_some_iff.mp (by decide +kernel), by decide +kernel⟩
  obtain ⟨b, hpublish, htidy, hboard⟩ :=
    (Queue.tidy_empty Queue.minuteQueue).gives_publish_now hadmits hwrite
  exact ⟨b, _, _, ⟨hpublish, htidy, hboard,
    ⟨_, _, 1, none, hwrite, ⟨rfl, hwhole⟩, rfl, rfl⟩, hdecode,
    Desk.gives_readEvent_toValue Message.complete_hearingEvent⟩, rfl⟩

theorem exists_refused_lease :
    ∃ fault, markEnd Desk.firstClock.seconds (10 ^ 18) = .error fault := by
  have hnone : (markEnd Desk.firstClock.seconds (10 ^ 18)).toOption = none := by decide +kernel
  cases hend : markEnd Desk.firstClock.seconds (10 ^ 18) with
  | error fault => exact ⟨fault, rfl⟩
  | ok stop =>
      rw [hend] at hnone
      cases hnone

section Loaded

variable (h : Loaded b text m)
include h

theorem Loaded.next : (Queue.minuteQueue.board b).next? Desk.firstClock.seconds = some text := by
  rw [h.board]
  rfl

theorem Loaded.ready : (laden b 60).Ready Queue.minuteQueue Desk.firstClock where
  queue := rfl
  name := by decide
  tidy := h.tidy
  written := by
    intro other hother
    have hboard : Queue.minuteQueue.board (laden b 60).broker = ⟨[text], [], [], []⟩ := h.board
    rw [hboard] at hother
    obtain rfl := List.mem_singleton.mp hother
    exact h.written
  lease := ⟨60, Double.ofNat 60, rfl, toOption_eq_some_iff.mp (by decide +kernel)⟩
  moment := Desk.exists_moment_firstClock
  limit := Int.ofNat_lt.mpr (Message.lt_attemptLimit (by decide))

theorem Loaded.exists_takes : ∃ k, Takes Queue.minuteQueue Desk.firstClock b text m k := by
  obtain ⟨other, k, hnext, hreads⟩ := h.ready.exists_takes h.next
  obtain rfl : other = m := Except.ok.inj (hreads.read.symm.trans h.read)
  exact ⟨k, hnext, hreads⟩

/-- The lease is refused after the text was taken. -/
theorem Loaded.ends_refused : (processOne Desk.firstClock).Ends (laden b (10 ^ 18))
    fun result t => (∃ fault, result = .error fault) ∧
      Queue.minuteQueue.board t.broker = ⟨[], [text], [], []⟩ := by
  obtain ⟨k, htakes⟩ := h.exists_takes
  -- Queues of one name have the same places, whatever their leases.
  have hboard : (laden b (10 ^ 18)).worker.queue.board = Queue.minuteQueue.board :=
    Queue.board_of_name rfl
  have htidy : (laden b (10 ^ 18)).worker.queue.Tidy b := h.tidy.of_name rfl
  have hname : Text.Whole (laden b (10 ^ 18)).worker.queue.name := h.ready.name
  have hclaim := htidy.ends_claim_message hname (hboard ▸ h.next) h.read htakes.2.whole_id rfl
  obtain ⟨fault, hrefused⟩ := exists_refused_lease
  rw [hrefused] at hclaim
  obtain ⟨c, hclaimed, hc⟩ := (hclaim.mono fun result c hends => hends.symm).gives
  have hplaces : Queue.minuteQueue.board c = (⟨[text], [], [], []⟩ : Board).claimed
      Desk.firstClock.seconds := by
    rw [← h.board, ← hboard]
    exact hc.board
  exact (gives_processOne (gives_processWith_error hclaimed)).ends ⟨⟨fault, rfl⟩, hplaces⟩

/-- The registry is cancelled, and the text stays with the claimed ones. -/
theorem Loaded.ends_cancelled :
    (processWith (fun _ => Attempt.fail .cancelled) Desk.firstClock).Ends (laden b 60)
      fun result t => result = .error .cancelled ∧
        Queue.minuteQueue.board t.broker = ⟨[], [text], [], []⟩ := by
  obtain ⟨k, htakes⟩ := h.exists_takes
  obtain ⟨c, hclaim, hheld, -⟩ := h.ready.gives_claim htakes
  have hattend : (attend (fun _ => Attempt.fail .cancelled) Desk.firstClock (laden b 60).worker m
      Message.hearingEvent).Gives ⟨_, c, busy (laden b 60).worker m⟩ (.error .cancelled)
      ⟨_, c, freed (laden b 60).worker⟩ :=
    gives_attend_cancelled (gives_fail _ (laden b 60).desk)
  have hreceive := gives_receive (s := { laden b 60 with broker := c })
    (h.event Desk.firstClock (laden b 60).desk) hattend
  refine (gives_processWith hclaim hreceive).ends ⟨rfl, hheld.board.trans ?_⟩
  have hloaded : Queue.minuteQueue.board (laden b 60).broker = ⟨[text], [], [], []⟩ := h.board
  rw [hloaded]
  rfl

end Loaded

theorem process_settles_hearing : ∃ b text m, Loaded b text m ∧
    (laden b 60).Ready Queue.minuteQueue Desk.firstClock ∧
    (processWith (fun _ => Attempt.fail .registryUnavailable) Desk.firstClock).Ends (laden b 60)
      fun result t => (∃ progress, result = .ok progress) ∧
        (Queue.minuteQueue.board t.broker).processing = [] ∧ t.worker.current = none := by
  obtain ⟨b, text, m, h, -⟩ := exists_loaded
  refine ⟨b, text, m, h, h.ready, ?_⟩
  obtain ⟨hends, -⟩ := process_settles h.ready fun _ => Attempt.fail .registryUnavailable
  apply hends.mono
  rintro result t ⟨hprocessed, hrestores⟩
  obtain ⟨progress, hresult⟩ := hprocessed.exists_ok fun event desk => by simp
  obtain ⟨hprocessing, hcurrent⟩ := hrestores progress hresult
  refine ⟨⟨progress, hresult⟩, hprocessing.trans ?_, hcurrent rfl⟩
  exact congrArg Board.processing h.board

/-- Two claims that are not settled: the lease of one ends later than the store can count, and the
other is cancelled. -/
theorem exists_claim_not_settled : ∃ b text m, Loaded b text m ∧
    (processOne Desk.firstClock).Ends (laden b (10 ^ 18)) (fun result t =>
      (∃ fault, result = .error fault) ∧
        (Queue.minuteQueue.board t.broker).processing = [text]) ∧
    (processWith (fun _ => Attempt.fail .cancelled) Desk.firstClock).Ends (laden b 60)
      fun result t => result = .error .cancelled ∧
        (Queue.minuteQueue.board t.broker).processing = [text] := by
  obtain ⟨b, text, m, h, -⟩ := exists_loaded
  refine ⟨b, text, m, h, h.ends_refused.mono ?_, h.ends_cancelled.mono ?_⟩
  · exact fun result t hends => ⟨hends.1, congrArg Board.processing hends.2⟩
  · exact fun result t hends => ⟨hends.1, congrArg Board.processing hends.2⟩

end Station

end CaseWorkflow
