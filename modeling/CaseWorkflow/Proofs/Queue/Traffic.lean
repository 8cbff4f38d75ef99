import CaseWorkflow.Proofs.Number.Sum
import CaseWorkflow.Proofs.Queue.Passage
import CaseWorkflow.Proofs.Queue.Recovery
import CaseWorkflow.Proofs.Queue.Schedule

/-!
# The traffic of a queue

Whatever joins the pending messages is written down in the order in which it joins them: what is
published at once, what is put back, and what was put off when a claim finds it due.  The pending
list and the schedule hold just what was written down and not yet handed out.
-/

namespace CaseWorkflow

open Attempt

/-- What has passed through a queue: the texts that joined the pending ones, those that are due
later with their times, and the messages that claims handed out. -/
structure Traffic where
  joined : List String
  later : Schedule
  handed : List Message

/-- The texts that are due, in the order of their times. -/
def Traffic.due (w : Traffic) (now : Double) : List String :=
  (Schedule.inOrder (w.later.filter (·.1.le now))).map Prod.snd

/-- The time is not before the epoch, and a lease of so many seconds can be set then. -/
def Timely (seconds : ℤ) (now : Double) : Prop :=
  (Double.zeroOf false).le now = true ∧ ∃ stop, markEnd now seconds = .ok stop

/-- Delays and limits are whole numbers, and the clock shows times at which a lease can be set. -/
def Move.Regular (seconds : ℤ) : Move → Prop
  | .publish _ delay _ => ∃ count : ℕ, delay = .int count
  | .requeue limit => ∃ count : ℤ, limit = .int count
  | .wait now => Timely seconds now
  | .claim | .complete _ | .retry _ | .bury _ _ => True

namespace Queue

variable {q : Queue} {b t : Broker} {published : List Message} {bound : ℕ} {now stop : Double}
  {seconds : ℤ} {s s' : Scene} {w : Traffic} {texts : List String} {text : String} {m p : Message}

/-! ## What a publish and a claim do by the clock -/

/-- The time at which a message is due that is put off. -/
def dueAt? (now : Double) : Value → Option Double
  | .int seconds => if 0 < seconds then (Double.ofInt? seconds).map now.add else none
  | _ => none

theorem due_of_prepare {delay : ℕ} {due? : Option Double}
    (h : prepare now m (.int delay) = .ok (text, due?)) : due? = dueAt? now (.int delay) := by
  have hpositive : (0 : ℤ) < delay ↔ 0 < delay := Int.natCast_pos
  simp only [dueAt?, hpositive]
  simp only [prepare, putOff?_int, Json.ok_bind] at h
  cases hwrite : m.write with
  | error fault => rw [hwrite] at h; cases h
  | ok written =>
      rw [hwrite, Json.ok_bind] at h
      split at h
      next seconds hsome =>
        split at hsome
        swap
        · cases hsome
        next hdelay =>
          obtain rfl := Option.some.inj hsome
          rw [if_pos hdelay]
          cases hdue : Double.ofInt? delay with
          | none => simp only [dueTime, hdue] at h; cases h
          | some due =>
              simp only [dueTime, hdue] at h
              exact (Prod.mk.inj (Except.ok.inj h)).2.symm
      next hnone =>
        split at hnone
        · cases hnone
        next hdelay =>
          rw [if_neg hdelay]
          exact (Prod.mk.inj (Except.ok.inj h)).2.symm

/-- What is put off is not due before it is published. -/
theorem le_of_dueAt? (hnow : now ≠ .nan) {delay : Value} {due : Double}
    (h : dueAt? now delay = some due) : now.le due = true := by
  unfold dueAt? at h
  split at h
  swap
  · cases h
  split at h
  swap
  · cases h
  next hpositive =>
    obtain ⟨added, hadded, rfl⟩ := Option.map_eq_some_iff.mp h
    obtain ⟨m, e, hcanonical, rfl⟩ := Double.exists_eq_of_ofInt? hadded hpositive.le
    exact Double.le_add hnow hcanonical

/-- A message that is published was prepared, and joined the pending ones or those that are due
later. -/
def Posted (q : Queue) (b : Broker) (now : Double) (delay : Value)
    (result : Except Fault (Option Message)) (t : Broker) : Prop :=
  ∀ p, result = .ok (some p) → ∃ due?, prepare now p delay = .ok (p.encode, due?) ∧
    q.board t = match due? with
      | some due => (q.board b).planned due p.encode
      | none => (q.board b).queued p.encode

theorem Tidy.ends_publish_posted (h : q.Tidy b) (now : Double) (event : Event) (delay : Value)
    (deduplicate : Bool) :
    (q.publish now event delay deduplicate).Ends b (q.Posted b now delay) := by
  apply h.ends_publish_of_enqueue
  · intro fault t _ p heq
    cases heq
  · intro t _ p heq
    cases heq
  · intro t ht
    have hboard : q.board t = q.board b := ht.board
    apply (ht.tidy.ends_enqueue now event _ delay).mono
    rintro (fault | ⟨⟩) u hends p heq
    · cases heq
    · obtain ⟨-, -, due?, hprepare, hqueued⟩ := hends
      obtain rfl := Option.some.inj (Except.ok.inj heq)
      refine ⟨due?, hprepare, ?_⟩
      rw [← hboard]
      cases due? <;> exact hqueued.board

/-- A text that belongs to another message is not the first one of this message. -/
theorem Ledger.ne_encode (h : q.Ledger published bound b) (hp : p ∈ published) {p' : Message}
    (hp' : p' ∈ published) (hne : p'.id ≠ p.id) {k : ℕ} {reason : Option String}
    (hentry : p'.Entry k reason text) : text ≠ p.encode := by
  rintro rfl
  have howns : p.owns p.encode = true := Message.Entry.first.owns (h.issued p hp)
  exact hne (congrArg Message.id ((h.owns_iff hp' hp hentry).mp howns)).symm

/-- A published message joins the pending ones, or those that are due later. -/
theorem Ledger.ends_publish_due (h : q.Ledger published bound b) (hbound : 1 ≤ bound)
    (now : Double) (event : Event) (delay : ℕ) (deduplicate : Bool) :
    (q.publish now event (.int delay) deduplicate).Ends b fun result t =>
      match result with
      | .ok (some p) => q.board t = match dueAt? now (.int delay) with
        | some due =>
          { q.board b with delayed := Schedule.insert (due, p.encode) (q.board b).delayed }
        | none => (q.board b).queued p.encode
      | _ => q.board t = q.board b := by
  apply ((h.ends_publish hbound now event (.int delay) deduplicate).and
    (h.tidy.ends_publish_posted now event (.int delay) deduplicate)).mono
  rintro result t ⟨hpublishes, hposted⟩
  match result with
  | .error fault => exact hpublishes.2
  | .ok none => exact hpublishes.2
  | .ok (some p) =>
      obtain ⟨hledger, hfresh, -⟩ := hpublishes
      obtain ⟨due?, hprepare, hboard⟩ := hposted p rfl
      obtain rfl := due_of_prepare hprepare
      dsimp only
      rw [hboard]
      cases dueAt? now (.int delay) with
      | none => rfl
      | some due =>
          have hothers : (q.board b).delayed.filter (·.2 != p.encode) = (q.board b).delayed := by
            rw [List.filter_eq_self]
            intro entry hentry
            obtain ⟨p', hp', k, -, hother⟩ :=
              h.waiting entry.2 (List.mem_append_right _ (List.mem_map_of_mem hentry))
            simpa using hledger.ne_encode List.mem_cons_self (List.mem_cons_of_mem p hp')
              (hfresh p' hp') hother
          simp only [Board.planned, hothers]

theorem Tidy.gives_claim_refused (h : q.Tidy b) (hname : ¬Text.Whole q.name) (now : Double) :
    ∃ fault, (q.claim now).Gives b (.error fault) b := by
  obtain ⟨fault, hrefused⟩ := h.gives_releaseDue_refused hname now
  exact ⟨fault, hrefused.bind_error⟩

/-- A claim whose lease can be set answers the message that is next.  Where nothing waits, it
answers nothing if the name of the queue has an encoding. -/
theorem Ledger.ends_claim_next (h : q.Ledger published bound b)
    (hlease : q.leaseSeconds = .int seconds) (hstop : markEnd now seconds = .ok stop) :
    (q.claim now).Ends b fun result _ =>
      match (q.board b).next? now with
      | some text => ∃ m, Message.decode text = .ok m ∧ result = .ok (.message m)
      | none => if Text.Whole q.name then result = .ok .nothing else ∃ fault, result = .error fault
      := by
  cases hnext : (q.board b).next? now with
  | some text =>
      obtain ⟨hwaiting, -⟩ := Board.claimed_of_next hnext
      obtain ⟨p, hp, k, -, hentry⟩ := h.waiting text (hwaiting.mem_iff.mpr List.mem_cons_self)
      obtain ⟨m, hread⟩ := hentry.exists_read (h.issued p hp)
      have hid := (h.nameable hp (hentry.copy (h.issued p hp) hread)).id
      apply (h.tidy.ends_claim_message (h.named (List.ne_nil_of_mem hp)) hnext hread hid
        hlease).mono
      rintro result t ⟨-, rfl⟩
      exact ⟨m, hread, by rw [hstop]; rfl⟩
  | none =>
      dsimp only
      split
      next hname =>
        unfold claim
        apply h.tidy.ends_take hname now
        intro t _
        rw [hnext]
        exact (gives_pure _ t).ends rfl
      next hname =>
        obtain ⟨fault, hrefused⟩ := h.tidy.gives_claim_refused hname now
        exact hrefused.ends ⟨fault, rfl⟩

/-! ## Following a run -/

/-- What a move publishes: the text of a message, and the time at which it is due if it is put
off. -/
def posted? (q : Queue) (s : Scene) : Move → Option (Option Double × String)
  | .publish event delay deduplicate =>
    ((q.publish s.now event delay deduplicate).run s.broker).result.toOption.join.map
      fun p => (dueAt? s.now delay, p.encode)
  | _ => none

/-- The traffic after a move. -/
def follow (q : Queue) (s : Scene) (w : Traffic) : Move → Traffic
  | .publish event delay deduplicate =>
    match q.posted? s (.publish event delay deduplicate) with
    | none => w
    | some (none, text) => { w with joined := w.joined ++ [text] }
    | some (some due, text) => { w with later := w.later ++ [(due, text)] }
  | .claim =>
    { joined := w.joined ++ w.due s.now
      later := w.later.filter (!·.1.le s.now)
      handed := w.handed
        ++ (((q.claim s.now).run s.broker).result.toOption.bind Claim.message?).toList }
  | .retry copy =>
    match s.copies[copy]? with
    | none => w
    | some c =>
      { w with joined := w.joined
          ++ (((q.retry s.now c).run s.broker).result.toOption.map Message.encode).toList }
  | .requeue (.int limit) =>
    { w with joined :=
        w.joined ++ q.recovered s.broker s.now limit (q.board s.broker).processing }
  | _ => w

/-- The traffic after a row of moves. -/
def followAll (q : Queue) : Scene → Traffic → List Move → Traffic
  | _, w, [] => w
  | s, w, move :: rest => q.followAll (q.step s move) (q.follow s w move) rest

theorem followAll_append (q : Queue) (s : Scene) (w : Traffic) (moves more : List Move) :
    q.followAll s w (moves ++ more) = q.followAll (q.run s moves) (q.followAll s w moves) more := by
  induction moves generalizing s w with
  | nil => rfl
  | cons move rest ih => exact ih _ _

/-- The traffic of an empty queue that makes a row of moves. -/
def traffic (q : Queue) (start : Double) (moves : List Move) : Traffic :=
  q.followAll (Scene.start start) ⟨[], [], []⟩ moves

theorem traffic_append (q : Queue) (start : Double) (moves more : List Move) :
    q.traffic start (moves ++ more)
      = q.followAll (q.run (Scene.start start) moves) (q.traffic start moves) more :=
  q.followAll_append _ _ moves more

theorem timely_run {start : Double} (hstart : Timely seconds start) {moves : List Move}
    (hmoves : ∀ move ∈ moves, move.Regular seconds) :
    Timely seconds (q.run (Scene.start start) moves).now := by
  induction moves using List.reverseRecOn with
  | nil => exact hstart
  | append_singleton moves move ih =>
      have hbefore := ih fun other hother => hmoves other (List.mem_append_left _ hother)
      have hmove := hmoves move (List.mem_append_right _ List.mem_cons_self)
      rw [run_concat]
      generalize q.run (Scene.start start) moves = s at hbefore ⊢
      cases move with
      | wait now => exact hmove
      | publish _ _ _ | claim | requeue _ => exact hbefore
      | complete copy | retry copy | bury copy _ =>
          simp only [Queue.step]
          split <;> exact hbefore

/-! ## The places and the traffic -/

/-- What was handed out and what is pending is what joined, and what is delayed is due later. -/
structure Accounts (q : Queue) (s : Scene) (w : Traffic) : Prop where
  split : ∃ taken, taken.map Message.decode = w.handed.map .ok ∧
    w.joined = taken ++ (q.board s.broker).pending.reverse
  later : (q.board s.broker).delayed.Perm w.later
  ordered : Schedule.Ordered (q.board s.broker).delayed
  due : ∀ entry ∈ w.later, (Double.zeroOf false).le entry.1 = true

namespace Accounts

theorem start (q : Queue) (now : Double) : q.Accounts (Scene.start now) ⟨[], [], []⟩ where
  split := ⟨[], rfl, rfl⟩
  later := .refl []
  ordered := List.Pairwise.nil
  due := by simp

theorem of_board (h : q.Accounts s w) (hboard : q.board s'.broker = q.board s.broker) :
    q.Accounts s' w where
  split := hboard ▸ h.split
  later := hboard ▸ h.later
  ordered := hboard ▸ h.ordered
  due := h.due

theorem gains (h : q.Accounts s w) (hgains : (q.board s.broker).Gains texts (q.board s'.broker)) :
    q.Accounts s' { w with joined := w.joined ++ texts } where
  split := by
    obtain ⟨taken, hhanded, hjoined⟩ := h.split
    refine ⟨taken, hhanded, ?_⟩
    rw [hgains.pending, hjoined, List.reverse_append, List.reverse_reverse, List.append_assoc]
  later := hgains.delayed ▸ h.later
  ordered := hgains.delayed ▸ h.ordered
  due := h.due

theorem planned (h : q.Accounts s w) {due : Double} (hdue : (Double.zeroOf false).le due = true)
    (hboard : q.board s'.broker = { q.board s.broker with
      delayed := Schedule.insert (due, text) (q.board s.broker).delayed }) :
    q.Accounts s' { w with later := w.later ++ [(due, text)] } where
  split := by rw [hboard]; exact h.split
  later := by
    rw [hboard]
    exact (Board.perm_insert _ _).trans
      ((h.later.cons _).trans (List.perm_append_singleton _ _).symm)
  ordered := by
    rw [hboard]
    refine h.ordered.insert (Double.ne_nan_of_le hdue).2 fun other hother => ?_
    exact (Double.ne_nan_of_le (h.due other (h.later.mem_iff.mp hother))).2
  due := by
    intro entry hentry
    rcases List.mem_append.mp hentry with hentry | hentry
    · exact h.due entry hentry
    · obtain rfl := List.mem_singleton.mp hentry
      exact hdue

/-- The delayed texts that are due join the pending ones in the order of their times. -/
theorem released (h : q.Accounts s w) (now : Double) :
    (q.board s.broker).released now =
      { q.board s.broker with
        pending := (w.due now).reverse ++ (q.board s.broker).pending
        delayed := (q.board s.broker).delayed.filter (!·.1.le now) } := by
  have hdue : ∀ entry ∈ (q.board s.broker).delayed,
      Schedule.isDue now entry = entry.1.le now := by
    intro entry hentry
    rw [Schedule.isDue, h.due entry (h.later.mem_iff.mp hentry), Bool.true_and]
  have htexts : ((q.board s.broker).delayed.filter (·.1.le now)).map Prod.snd = w.due now := by
    have hordered : Schedule.Ordered ((q.board s.broker).delayed.filter (·.1.le now)) :=
      List.Pairwise.filter _ h.ordered
    exact hordered.texts_eq (h.later.filter _)
  rw [Board.released, List.filter_congr hdue,
    List.filter_congr fun entry hentry => congrArg not (hdue entry hentry), htexts]

theorem joined_append_due (h : q.Accounts s w) (now : Double) {taken : List String}
    (hjoined : w.joined = taken ++ (q.board s.broker).pending.reverse) :
    w.joined ++ w.due now = taken ++ ((q.board s.broker).released now).pending.reverse := by
  rw [h.released, hjoined, List.reverse_append, List.reverse_reverse, List.append_assoc]

/-- Nothing is next if and only if nothing is pending and nothing is due. -/
theorem next?_eq_none_iff (h : q.Accounts s w) (now : Double) :
    (q.board s.broker).next? now = none ↔ (q.board s.broker).pending = [] ∧
      ∀ entry ∈ (q.board s.broker).delayed, entry.1.le now = false := by
  rw [Board.next?, List.getLast?_eq_none_iff, h.released, List.append_eq_nil_iff,
    List.reverse_eq_nil_iff, Traffic.due, List.map_eq_nil_iff, and_comm]
  refine and_congr_right fun _ => ?_
  rw [← List.length_eq_zero_iff, (Schedule.perm_inOrder _).length_eq, List.length_eq_zero_iff,
    List.filter_eq_nil_iff]
  simp only [h.later.mem_iff, Bool.not_eq_true]

theorem claimed (h : q.Accounts s w) (hledger : q.Ledger s.published bound s.broker)
    (hlease : q.leaseSeconds = .int seconds) (hstop : markEnd s.now seconds = .ok stop) :
    q.Accounts (q.step s .claim) (q.follow s w .claim) := by
  have hboard := (hledger.ends_claim s.now).2.1
  have hnext := hledger.ends_claim_next hlease hstop
  obtain ⟨taken, hhanded, hjoined⟩ := h.split
  have hdelayed : ((q.board s.broker).claimed s.now).delayed
      = (q.board s.broker).delayed.filter (!·.1.le s.now) := by
    unfold Board.claimed Board.taken
    rw [h.released]
    split <;> rfl
  simp only [Queue.step, follow]
  unfold Ends at hnext
  generalize (q.claim s.now).run s.broker = outcome at hboard hnext ⊢
  obtain ⟨result, t, notes⟩ := outcome
  dsimp only at hboard hnext ⊢
  refine ⟨?_, ?_, ?_, fun entry hentry => h.due entry (List.mem_of_mem_filter hentry)⟩
  · rw [hboard, h.joined_append_due s.now hjoined]
    unfold Board.claimed Board.taken
    rw [Board.next?] at hnext
    cases hlast : ((q.board s.broker).released s.now).pending.getLast? with
    | none =>
        have hsilent : result.toOption.bind Claim.message? = none := by
          rw [hlast] at hnext
          dsimp only at hnext
          split at hnext
          · rw [hnext]; rfl
          · obtain ⟨fault, rfl⟩ := hnext; rfl
        refine ⟨taken, ?_, rfl⟩
        rw [hsilent, Option.toList_none, List.append_nil, hhanded]
    | some text =>
        rw [hlast] at hnext
        obtain ⟨m, hread, rfl⟩ := hnext
        -- The oldest pending text is the first one that was not handed out yet.
        have hpending := List.dropLast_append_getLast? text hlast
        refine ⟨taken ++ [text], ?_, ?_⟩
        · rw [List.map_append, hhanded, List.map_singleton, hread, List.map_append]
          rfl
        · dsimp only
          rw [← hpending, List.dropLast_concat, List.reverse_append, List.append_assoc]
          rfl
  · rw [hboard, hdelayed]
    exact h.later.filter _
  · rw [hboard, hdelayed]
    exact List.Pairwise.filter _ h.ordered

theorem settled (h : q.Accounts s w)
    (hgains : (q.board s.broker).Gains [] (q.board s'.broker)) : q.Accounts s' w := by
  simpa using h.gains hgains

theorem step (h : q.Accounts s w) (hsound : q.Sound bound s) (hpos : 1 ≤ bound)
    (hbound : bound + 1 < Message.attemptLimit) (hbare : ∀ id, s.broker.Bare (q.lease id))
    (hlease : q.leaseSeconds = .int seconds) (htimely : Timely seconds s.now) {move : Move}
    (hmove : move.Regular seconds) : q.Accounts (q.step s move) (q.follow s w move) := by
  obtain ⟨hnow, stop, hstop⟩ := htimely
  have hledger := hsound.ledger
  cases move with
  | publish event delay deduplicate =>
      obtain ⟨delay, rfl⟩ := hmove
      have hends := hledger.ends_publish_due hpos s.now event delay deduplicate
      simp only [Queue.step, follow, posted?]
      unfold Ends at hends
      generalize (q.publish s.now event (.int delay) deduplicate).run s.broker = outcome
        at hends ⊢
      obtain ⟨result, t, notes⟩ := outcome
      rcases result with fault | _ | p
      · exact h.of_board hends
      · exact h.of_board hends
      cases hdue : dueAt? s.now (.int delay) with
      | none =>
          simp only [hdue] at hends
          exact h.gains (hends.symm ▸ Board.gains_queued _ _)
      | some due =>
          simp only [hdue] at hends
          exact h.planned (Double.le_of_le_of_le hnow (le_of_dueAt? (Double.ne_nan_of_le hnow).2 hdue))
            hends
  | claim => exact h.claimed hledger hlease hstop
  | complete copy =>
      simp only [Queue.step, follow]
      split
      next => exact h
      next c hc =>
        obtain ⟨p, hp, k, -, hcopy⟩ := hsound.copy hc
        obtain ⟨-, text?, hdropped⟩ := hledger.ends_release_ok hp hcopy s.now
        exact h.settled (hdropped.board.symm ▸ Board.gains_dropped text? _)
  | retry copy =>
      simp only [Queue.step, follow]
      cases hc : s.copies[copy]? with
      | none => exact h
      | some c =>
          obtain ⟨p, hp, k, hk, hcopy⟩ := hsound.copy hc
          obtain ⟨next, -, hresult, hgains⟩ := hledger.ends_retry_ok hp hcopy (by omega) s.now
          dsimp only
          rw [hresult]
          exact h.gains hgains
  | bury copy reason =>
      simp only [Queue.step, follow]
      split
      next => exact h
      next c hc =>
        obtain ⟨p, hp, k, -, hcopy⟩ := hsound.copy hc
        exact h.settled (hledger.ends_bury_ok hp hcopy s.now reason).2
  | requeue limit =>
      obtain ⟨limit, rfl⟩ := hmove
      exact h.gains (hledger.ends_requeueExpired_gains hbare hbound s.now limit)
  | wait now => exact h.of_board rfl

end Accounts

/-- Along a run the places and the traffic tell the same. -/
theorem accounts_run (hlease : q.leaseSeconds = .int seconds) {start : Double}
    (hstart : Timely seconds start) {moves : List Move}
    (hmoves : ∀ move ∈ moves, move.Regular seconds)
    (hshort : moves.length + 1 < Message.attemptLimit) :
    q.Accounts (q.run (Scene.start start) moves) (q.traffic start moves) := by
  induction moves using List.reverseRecOn with
  | nil => exact Accounts.start q start
  | append_singleton moves move ih =>
      rw [List.length_append, List.length_singleton] at hshort
      have hbefore := fun other hother => hmoves other (List.mem_append_left [move] hother)
      have hmove := hmoves move (List.mem_append_right _ List.mem_cons_self)
      have hbare := fun id => q.bare_run start moves (q.lease_not_mem_placeKeys id)
      rw [run_concat, traffic_append]
      exact (ih hbefore (by omega)).step (q.sound_run start moves) (by omega) hshort hbare hlease
        (timely_run hstart hbefore) hmove

end Queue

end CaseWorkflow
