import CaseWorkflow.Proofs.Number.Order
import CaseWorkflow.Proofs.Queue.Situation
import CaseWorkflow.Worker.Basic

/-!
# What a worker makes of the message that it claims

A worker claims the next message.  It drops the message once its event was handled, and
otherwise leaves it, puts it back, or gives it up.
-/

namespace CaseWorkflow

theorem Value.atLeast_int (k : ℕ) (limit : ℤ) :
    Value.atLeast (.int k) (.int limit) = .ok (decide (limit ≤ k)) := by
  simp only [Value.atLeast, Value.number?, Number.le_int]

namespace Queue

variable {q : Queue} {b t : Broker} {published : List Message} {bound k : ℕ} {limit : ℤ}
variable {p : Message}

theorem Ledger.settles_of_buries {reason : String} {result : Except Fault Unit}
    (h : Buries q published bound b p k reason result t) :
    Settles p k limit (q.board b) (q.board t) := by
  rcases h.2 with ⟨hboard, -⟩ | ⟨text?, text, hfound, hentry, hboard, -⟩
  · rw [hboard]
    exact .kept
  · rw [hboard]
    exact .buried hfound hentry

/-- A retry below a limit that can be written loses nothing. -/
theorem Ledger.settles_of_retries (hk : k < limit) (hlimit : limit < Message.attemptLimit)
    {result : Except Fault Message} (h : Retries q published bound b p k result t) :
    Settles p k limit (q.board b) (q.board t) := by
  rcases h.2 with ⟨hboard, -⟩ | ⟨text?, hfound, ⟨hlarge, -⟩ | ⟨text, next, hentry, -, -, hboard⟩⟩
  · rw [hboard]
    exact .kept
  · omega
  · rw [hboard]
    exact .queued hfound hk hentry

theorem Ledger.settles_of_returns (hlimit : limit < Message.attemptLimit)
    {result : Except Fault Unit} (h : Returns q published bound b p k (.int limit) result t) :
    Settles p k limit (q.board b) (q.board t) := by
  rcases h.2 with ⟨hboard, -⟩ | ⟨-, hburies⟩ | ⟨hless, answer, hretries, -⟩
  · rw [hboard]
    exact .kept
  · exact settles_of_buries hburies
  · rw [Value.atLeast_int, Except.ok.injEq, decide_eq_false_iff_not, not_le] at hless
    exact settles_of_retries hless hlimit hretries

end Queue

namespace Station

variable {s : Station} {α : Type}

/-! ## Parts of the station -/

theorem gives_onDesk {attempt : Attempt Desk α} {result : Except Fault α} {desk : Desk}
    (h : attempt.Gives s.desk result desk) : (onDesk attempt).Gives s result { s with desk } :=
  h.on

theorem ends_onDesk (attempt : Attempt Desk α) (s : Station) :
    (onDesk attempt).Ends s fun _ t => t.broker = s.broker := by
  apply (Attempt.Ends.on (P := fun _ _ => True) trivial).mono
  rintro result t ⟨desk, rfl, -⟩
  rfl

theorem gives_onBroker {attempt : Attempt Broker α} {result : Except Fault α} {broker : Broker}
    (h : attempt.Gives s.broker result broker) :
    (onBroker attempt).Gives s result { s with broker } :=
  h.on

theorem ends_onBroker {attempt : Attempt Broker α} {Q : Except Fault α → Broker → Prop}
    (h : attempt.Ends s.broker Q) :
    (onBroker attempt).Ends s fun result t => Q result t.broker := by
  apply (Attempt.Ends.on h).mono
  rintro result t ⟨broker, rfl, hq⟩
  exact hq

theorem gives_setWorker (f : Worker → Worker) (s : Station) :
    (setWorker f).Gives s (.ok ()) { s with worker := f s.worker } :=
  Attempt.gives_modify _ s

theorem gives_setCurrent (message : Option Message) (s : Station) :
    (setCurrent message).Gives s (.ok ())
      { s with worker := { s.worker with current := message } } :=
  gives_setWorker _ s

/-- Reports are notes only. -/
theorem gives_report (execution : Execution) (s : Station) :
    (report execution).Gives s (.ok ()) s := by
  unfold report
  have hactions := Attempt.gives_forM (s := s)
    (fun result : ActionResult => Attempt.gives_note .worker .warning
      (s!"Workflow {execution.workflow} action {result.kind.plainText} failed: "
        ++ (result.error?.map Vocabulary.wire).getD "unknown"
        ++ if result.timedOut then " (timed out)" else "") s) execution.failedActions
  split
  next => exact (Attempt.gives_note _ _ _ s).bind_ok hactions
  next => exact hactions

/-! ## A message that is worked on -/

section Work

variable {q : Queue} {published : List Message} {bound k : ℕ} {limit : ℤ} {p m : Message}
variable {run : Runner}

/-- The message was handled and dropped, or nothing was done to it. -/
def Works (q : Queue) (published : List Message) (bound : ℕ) (p : Message) (s : Station)
    (result : Except Fault Unit) (t : Station) : Prop :=
  q.Ledger published bound t.broker ∧
    ((q.board t.broker = q.board s.broker ∧ ∃ fault, result = .error fault) ∨
      ∃ text?, Queue.Ledger.Found (q.board s.broker).processing p text? ∧
        q.board t.broker = (q.board s.broker).dropped text? ∧ result = .ok ())

theorem ends_work (h : q.Ledger published bound s.broker) (hp : p ∈ published)
    (hcopy : p.Copy k m) (clock : Clock) (event : Event) :
    (work run clock q m event).Ends s (Works q published bound p s) := by
  unfold work
  apply Attempt.Ends.bind_ok (Attempt.gives_note _ _ _ s)
  apply (ends_onDesk (run event) s).bind
  · intro fault t ht
    exact ⟨ht ▸ h, .inl ⟨ht ▸ rfl, fault, rfl⟩⟩
  intro executions t ht
  apply Attempt.Ends.bind_ok (Attempt.gives_forM (fun execution => gives_report execution t) _)
  rw [← ht] at h
  apply (ends_onBroker (h.ends_release hp hcopy clock.seconds)).bind
  · rintro fault u ⟨hledger, ⟨hboard, -⟩ | ⟨text?, -, -, heq⟩⟩
    · exact ⟨hledger, .inl ⟨ht ▸ hboard, fault, rfl⟩⟩
    · cases heq
  rintro ⟨⟩ u ⟨hledger, ⟨-, fault, heq⟩ | ⟨text?, hfound, hboard, -⟩⟩
  · cases heq
  · exact (gives_setWorker _ u).ends ⟨hledger, .inr ⟨text?, ht ▸ hfound, ht ▸ hboard, rfl⟩⟩

theorem ends_settle (h : q.Ledger published bound s.broker) (hp : p ∈ published)
    (hk : k + 1 ≤ bound) (hcopy : p.Copy k m) (clock : Clock) {worker : Worker}
    (hqueue : worker.queue = q) (hmax : worker.maxAttempts = limit)
    (hlimit : limit < Message.attemptLimit) (fault : Fault) :
    (settle clock worker m fault).Ends s fun _ t =>
      q.Ledger published bound t.broker ∧
        Queue.Settles p k limit (q.board s.broker) (q.board t.broker) := by
  have hattempt : m.attempt = .int k := by
    obtain ⟨origin, -, -, rfl⟩ := hcopy
    rfl
  unfold settle
  apply Attempt.Ends.bind_ok (Attempt.gives_note _ _ _ s)
  rw [hqueue, hmax, hattempt, Value.atLeast_int]
  apply Attempt.Ends.bind_ok (Attempt.gives_ofExcept _ s)
  split
  next =>
    apply (ends_onBroker (h.ends_bury hp (by omega) hcopy clock.seconds _)).mono
    exact fun result t hburies => ⟨hburies.1, Queue.Ledger.settles_of_buries hburies⟩
  next hless =>
    rw [decide_eq_true_iff, not_le] at hless
    apply (ends_onBroker (h.ends_retry hp hk hcopy clock.seconds)).bind
    · exact fun fault t hretries =>
        ⟨hretries.1, Queue.Ledger.settles_of_retries hless hlimit hretries⟩
    · exact fun next t hretries => (Attempt.gives_pure () t).ends
        ⟨hretries.1, Queue.Ledger.settles_of_retries hless hlimit hretries⟩

/-- The message was handled and dropped, or it was settled in another way. -/
def Attends (q : Queue) (published : List Message) (bound k : ℕ) (limit : ℤ) (p : Message)
    (s : Station) (handled : Prop) (t : Station) : Prop :=
  q.Ledger published bound t.broker ∧
    ((handled ∧ ∃ text?, Queue.Ledger.Found (q.board s.broker).processing p text? ∧
        q.board t.broker = (q.board s.broker).dropped text?) ∨
      (¬handled ∧ Queue.Settles p k limit (q.board s.broker) (q.board t.broker)))

theorem ends_attend (h : q.Ledger published bound s.broker) (hp : p ∈ published)
    (hk : k + 1 ≤ bound) (hcopy : p.Copy k m) (clock : Clock) {worker : Worker}
    (hqueue : worker.queue = q) (hmax : worker.maxAttempts = limit)
    (hlimit : limit < Message.attemptLimit) (event : Event) :
    (attend run clock worker m event).Ends s fun result t =>
      Attends q published bound k limit p s (result = .ok true) t := by
  unfold attend
  rw [hqueue]
  apply (ends_work h hp hcopy clock event).guarded.bind
  · rintro fault t ⟨inner, heq, -⟩
    cases heq
  rintro result t ⟨inner, heq, hledger, hworks⟩
  obtain rfl := Except.ok.inj heq
  rcases hworks with ⟨hboard, fault, rfl⟩ | ⟨text?, hfound, hboard, rfl⟩
  · split
    next heq => cases heq
    next =>
      apply Attempt.Ends.bind_ok (gives_setCurrent none t)
      refine (Attempt.gives_fail _ _).ends ⟨hledger, .inr ⟨by simp, ?_⟩⟩
      exact hboard ▸ .kept
    next other _ _ =>
      apply (ends_settle hledger hp hk hcopy clock hqueue hmax hlimit other).guarded.bind
      · rintro fault u ⟨inner, heq, -⟩
        cases heq
      rintro settled u ⟨inner, -, hledger, hsettles⟩
      rw [hboard] at hsettles
      apply Attempt.Ends.bind_ok (gives_setCurrent none u)
      cases settled with
      | error fault =>
          exact Attempt.Ends.bind_error (Attempt.gives_ofExcept _ _)
            ⟨hledger, .inr ⟨by simp, hsettles⟩⟩
      | ok done =>
          apply Attempt.Ends.bind_ok (Attempt.gives_ofExcept _ _)
          exact (Attempt.gives_pure false _).ends ⟨hledger, .inr ⟨by simp, hsettles⟩⟩
  · dsimp only
    apply Attempt.Ends.bind_ok (gives_setCurrent none t)
    exact (Attempt.gives_pure true _).ends ⟨hledger, .inl ⟨rfl, text?, hfound, hboard⟩⟩

/-- What became of the text that was claimed, if there was one: its message was handled and
dropped, or it was settled in another way. -/
def Processes (published : List Message) (limit : ℤ) (claimed : Board)
    (text? : Option String) (handled : Prop) (places : Board) : Prop :=
  match text? with
  | none => ¬handled ∧ places = claimed
  | some text =>
    ∃ p ∈ published, ∃ k, p.Entry k none text ∧
      ((handled ∧ ∃ text?, Queue.Ledger.Found claimed.processing p text? ∧
          places = claimed.dropped text?) ∨
        (¬handled ∧ Queue.Settles p k limit claimed places))

theorem Processes.of_not_handled {q : Queue} {b : Broker} (h : q.Ledger published bound b)
    {now : Double} {claimed : Board} {handled : Prop} (hnot : ¬handled) :
    Processes published limit claimed ((q.board b).next? now) handled claimed := by
  cases hnext : (q.board b).next? now with
  | none => exact ⟨hnot, rfl⟩
  | some text =>
      obtain ⟨hwaiting, -, -⟩ := Board.claimed_of_next hnext
      obtain ⟨p, hp, k, -, hentry⟩ := h.waiting text (hwaiting.mem_iff.mpr List.mem_cons_self)
      exact ⟨p, hp, k, hentry, .inr ⟨hnot, .kept⟩⟩

theorem ends_receive (h : q.Ledger published bound s.broker) (hp : p ∈ published)
    (hk : k + 1 ≤ bound) (hcopy : p.Copy k m) (clock : Clock) {worker : Worker}
    (hqueue : worker.queue = q) (hmax : worker.maxAttempts = limit)
    (hlimit : limit < Message.attemptLimit) :
    (receive run clock worker m).Ends s fun result t =>
      Attends q published bound k limit p s (result = .ok .handled) t := by
  unfold receive
  apply Attempt.Ends.bind_ok (gives_setCurrent (some m) s)
  apply (ends_onDesk _ _).guarded.bind
  · rintro fault t ⟨inner, heq, -⟩
    cases heq
  rintro read t ⟨-, -, ht⟩
  have ht : t.broker = s.broker := ht
  rw [← ht] at h
  unfold Attends
  rw [← ht]
  split
  next invalid =>
    apply Attempt.Ends.bind_ok (Attempt.gives_note _ _ _ t)
    rw [hqueue]
    apply (ends_onBroker (h.ends_bury hp (by omega) hcopy clock.seconds "invalid_event")).bind
    · exact fun fault u hburies =>
        ⟨hburies.1, .inr ⟨by simp, Queue.Ledger.settles_of_buries hburies⟩⟩
    intro _ u hburies
    apply Attempt.Ends.bind_ok (gives_setCurrent none u)
    exact (Attempt.gives_pure Progress.skipped _).ends
      ⟨hburies.1, .inr ⟨by simp, Queue.Ledger.settles_of_buries hburies⟩⟩
  next fault _ => exact (Attempt.gives_fail fault t).ends ⟨h, .inr ⟨by simp, .kept⟩⟩
  next event =>
    apply (ends_attend h hp hk hcopy clock hqueue hmax hlimit event).bind
    · exact fun fault u hattends =>
        ⟨hattends.1, hattends.2.imp (fun hhandled => absurd hhandled.1 (by simp))
          fun hsettled => ⟨by simp, hsettled.2⟩⟩
    · intro done u hattends
      cases done with
      | true =>
          refine (Attempt.gives_pure Progress.handled u).ends ⟨hattends.1, ?_⟩
          exact hattends.2.imp (fun hhandled => ⟨rfl, hhandled.2⟩)
            fun hsettled => absurd rfl hsettled.1
      | false =>
          refine (Attempt.gives_pure Progress.failed u).ends ⟨hattends.1, ?_⟩
          exact hattends.2.imp (fun hhandled => absurd hhandled.1 (by simp))
            fun hsettled => ⟨by simp, hsettled.2⟩

/-- Processing takes the next text.  An attempt may rise by one. -/
theorem ends_processOne (h : q.Ledger published bound s.broker) (clock : Clock)
    (hqueue : s.worker.queue = q) (hmax : s.worker.maxAttempts = limit)
    (hlimit : limit < Message.attemptLimit) :
    (processOne clock).Ends s fun result t =>
      q.Ledger published (bound + 1) t.broker ∧
        Processes published limit ((q.board s.broker).claimed clock.seconds)
          ((q.board s.broker).next? clock.seconds) (result = .ok .handled) (q.board t.broker) := by
  unfold processOne
  apply Attempt.Ends.bind_ok (Attempt.gives_get s)
  unfold processWith
  apply Attempt.Ends.bind_ok (Attempt.gives_get s)
  dsimp only
  rw [hqueue]
  apply (ends_onBroker (h.ends_claim clock.seconds)).bind
  · rintro fault t ⟨hledger, hboard, -, -⟩
    refine ⟨hledger.mono (by omega), ?_⟩
    rw [hboard]
    exact .of_not_handled h (by simp)
  rintro answer t ⟨hledger, hboard, hanswers, -⟩
  have hlater := hledger.mono (Nat.le_add_right bound 1)
  match answer with
  | .nothing =>
      refine (Attempt.gives_pure Progress.idle t).ends ⟨hlater, ?_⟩
      rw [hboard]
      exact .of_not_handled h (by simp)
  | .blank =>
      refine (Attempt.gives_pure Progress.skipped t).ends ⟨hlater, ?_⟩
      rw [hboard]
      exact .of_not_handled h (by simp)
  | .message m =>
      have hanswers := hanswers.resolve_right fun hfault => by
        obtain ⟨-, fault, heq⟩ := hfault
        cases heq
      cases hnext : (q.board s.broker).next? clock.seconds with
      | none =>
          rw [hnext] at hanswers
          cases hanswers
      | some text =>
          rw [hnext] at hanswers
          obtain ⟨hwaiting, -, -⟩ := Board.claimed_of_next hnext
          obtain ⟨p, hp, k, hk, hentry⟩ :=
            h.waiting text (hwaiting.mem_iff.mpr List.mem_cons_self)
          have hread : Message.decode text = .ok m := by
            rcases hanswers with ⟨-, heq⟩ | ⟨-, hread⟩
            · cases heq
            cases hdecode : Message.decode text with
            | error fault => rw [hdecode] at hread; cases hread
            | ok other =>
                rw [hdecode] at hread
                rcases hread with heq | ⟨fault, heq⟩
                · exact congrArg Except.ok (Queue.Claim.message.inj (Except.ok.inj heq)).symm
                · cases heq
          have hcopy := hentry.copy (h.issued p hp) hread
          apply (ends_receive hlater hp (by omega) hcopy clock hqueue hmax hlimit).mono
          rw [← hboard]
          exact fun result u hattends => ⟨hattends.1, p, hp, k, hentry, hattends.2⟩

end Work

end Station

end CaseWorkflow
