import CaseWorkflow.Proofs.Queue.Trace

/-!
# The order of delivery

Claims hand out what joined the pending messages, in the order in which it joined them.  A message
that was put off joins them once, at the first claim that is made when it is due.
-/

namespace CaseWorkflow

open Attempt

namespace Queue

variable {q : Queue} {seconds : ℤ} {start due : Double} {s : Scene} {w : Traffic} {text : String}
  {move : Move} {moves : List Move}

/-! ## When a text joins that was put off -/

/-- One of the moves is a claim at a time that is not before the given one. -/
def ClaimedBy (q : Queue) (s : Scene) (moves : List Move) (due : Double) : Prop :=
  ∃ waited rest, moves = waited ++ .claim :: rest ∧ due.le (q.run s waited).now = true

theorem not_claimedBy_nil : ¬q.ClaimedBy s [] due := by
  rintro ⟨waited, rest, heq, -⟩
  simp at heq

theorem claimedBy_cons :
    q.ClaimedBy s (move :: moves) due ↔
      (move = .claim ∧ due.le s.now = true) ∨ q.ClaimedBy (q.step s move) moves due := by
  constructor
  · rintro ⟨waited, rest, heq, hdue⟩
    cases waited with
    | nil =>
        obtain ⟨rfl, -⟩ := List.cons.inj heq
        exact .inl ⟨rfl, hdue⟩
    | cons first waited =>
        obtain ⟨rfl, rfl⟩ := List.cons.inj heq
        exact .inr ⟨waited, rest, rfl, hdue⟩
  · rintro (⟨rfl, hdue⟩ | ⟨waited, rest, rfl, hdue⟩)
    · exact ⟨[], moves, rfl, hdue⟩
    · exact ⟨move :: waited, rest, rfl, hdue⟩

/-- What joined stays written down. -/
theorem joined_subset_follow (q : Queue) (s : Scene) (w : Traffic) (move : Move) :
    w.joined ⊆ (q.follow s w move).joined := by
  unfold follow
  split
  next =>
    split
    · exact List.Subset.refl _
    · exact List.subset_append_left _ _
    · exact List.Subset.refl _
  next => exact List.subset_append_left _ _
  next =>
    split
    · exact List.Subset.refl _
    · exact List.subset_append_left _ _
  next => exact List.subset_append_left _ _
  next => exact List.Subset.refl _

theorem joined_subset_followAll (q : Queue) (s : Scene) (w : Traffic) (moves : List Move) :
    w.joined ⊆ (q.followAll s w moves).joined := by
  induction moves generalizing s w with
  | nil => exact List.Subset.refl _
  | cons move rest ih => exact List.Subset.trans (q.joined_subset_follow s w move) (ih _ _)

/-- What is due later joins at a claim that is made when it is due, and stays otherwise. -/
theorem follow_later (q : Queue) (s : Scene) {entry : Double × String} (h : entry ∈ w.later)
    (move : Move) :
    ((move = .claim ∧ entry.1.le s.now = true) ∧ entry.2 ∈ (q.follow s w move).joined) ∨
      (¬(move = .claim ∧ entry.1.le s.now = true) ∧ entry ∈ (q.follow s w move).later) := by
  by_cases hclaim : move = .claim ∧ entry.1.le s.now = true
  · refine .inl ⟨hclaim, ?_⟩
    obtain ⟨rfl, hdue⟩ := hclaim
    apply List.mem_append_right
    apply List.mem_map_of_mem
    exact (Schedule.perm_inOrder _).mem_iff.mpr (List.mem_filter.mpr ⟨h, hdue⟩)
  · refine .inr ⟨hclaim, ?_⟩
    unfold follow
    split
    next =>
      split
      · exact h
      · exact h
      · exact List.mem_append_left _ h
    next =>
      rw [List.mem_filter, Bool.not_eq_true', ← Bool.not_eq_true]
      exact ⟨h, fun hdue => hclaim ⟨rfl, hdue⟩⟩
    next => split <;> exact h
    next => exact h
    next => exact h

theorem followAll_later (q : Queue) (s : Scene) {entry : Double × String} (h : entry ∈ w.later)
    (moves : List Move) :
    (q.ClaimedBy s moves entry.1 ∧ entry.2 ∈ (q.followAll s w moves).joined) ∨
      (¬q.ClaimedBy s moves entry.1 ∧ entry ∈ (q.followAll s w moves).later) := by
  induction moves generalizing s w with
  | nil => exact .inr ⟨not_claimedBy_nil, h⟩
  | cons move rest ih =>
      rw [claimedBy_cons]
      rcases q.follow_later s h move with ⟨hclaim, hjoined⟩ | ⟨hother, hlater⟩
      · exact .inl ⟨.inl hclaim, q.joined_subset_followAll _ _ rest hjoined⟩
      · rcases ih (q.step s move) hlater with ⟨hclaimed, hjoined⟩ | ⟨hnot, hlater⟩
        · exact .inl ⟨.inr hclaimed, hjoined⟩
        · exact .inr ⟨not_or.mpr ⟨hother, hnot⟩, hlater⟩

theorem posted_later (h : q.posted? s move = some (some due, text)) (w : Traffic) :
    (due, text) ∈ (q.follow s w move).later := by
  cases move with
  | publish event delay deduplicate =>
      rw [follow, h]
      exact List.mem_append_right _ (List.mem_singleton_self _)
  | claim | complete _ | retry _ | bury _ _ | requeue _ | wait _ => cases h

theorem published_subset_step (q : Queue) (s : Scene) (move : Move) :
    s.published ⊆ (q.step s move).published := by
  cases move with
  | publish event delay deduplicate => exact List.subset_append_right _ _
  | claim | requeue _ | wait _ => exact List.Subset.refl _
  | complete copy | retry copy | bury copy _ =>
      simp only [Queue.step]
      split <;> exact List.Subset.refl _

theorem published_subset_run (q : Queue) (s : Scene) (moves : List Move) :
    s.published ⊆ (q.run s moves).published := by
  induction moves generalizing s with
  | nil => exact List.Subset.refl _
  | cons move rest ih => exact List.Subset.trans (q.published_subset_step s move) (ih _)

/-- A message that was put off joins once, if and only if there was a claim when it was due. -/
theorem joined_once_iff (hlease : q.leaseSeconds = .int seconds) (hstart : Timely seconds start)
    {before more : List Move} (hmoves : ∀ other ∈ before ++ move :: more, other.Regular seconds)
    (hshort : (before ++ move :: more).length + 1 < Message.attemptLimit)
    (hposted : q.posted? (q.run (Scene.start start) before) move = some (some due, text)) :
    (q.traffic start (before ++ move :: more)).joined.count text ≤ 1 ∧
      (text ∈ (q.traffic start (before ++ move :: more)).joined ↔
        q.ClaimedBy (q.run (Scene.start start) (before ++ [move])) more due) := by
  have hsplit : before ++ move :: more = (before ++ [move]) ++ more := by simp
  rw [hsplit] at hmoves hshort ⊢
  have hlater : (due, text) ∈ (q.traffic start (before ++ [move])).later := by
    rw [traffic_append]
    exact posted_later hposted _
  have hone : ((q.traffic start (before ++ [move] ++ more)).joined
      ++ (q.traffic start (before ++ [move] ++ more)).later.map Prod.snd).count text = 1 := by
    have hearly := traced_run hlease hstart
      (fun other hother => hmoves other (List.mem_append_left more hother))
      (by rw [List.length_append] at hshort; omega)
    obtain ⟨p, hp, rfl⟩ := hearly.later _ hlater
    have htraced := traced_run hlease hstart hmoves hshort
    rw [run_append] at htraced
    exact htraced.once p (q.published_subset_run _ more hp)
  rw [List.count_append] at hone
  have hjoins := q.followAll_later (q.run (Scene.start start) (before ++ [move])) hlater more
  rw [← traffic_append] at hjoins
  refine ⟨by omega, ?_⟩
  -- The text is written down once, so that it cannot have joined and be due later as well.
  rcases hjoins with ⟨hclaimed, hjoined⟩ | ⟨hnot, hwaits⟩
  · exact iff_of_true hjoined hclaimed
  · have hpos : 0 < ((q.traffic start (before ++ [move] ++ more)).later.map Prod.snd).count text :=
      List.count_pos_iff.mpr (List.mem_map_of_mem hwaits)
    exact iff_of_false (List.count_eq_zero.mp (by omega)) hnot

/-! ## What claims hand out -/

/-- A claim answers nothing if and only if nothing is pending and nothing is due. -/
theorem Accounts.ends_claim_nothing {bound : ℕ} {stop : Double} (h : q.Accounts s w)
    (hledger : q.Ledger s.published bound s.broker) (hlease : q.leaseSeconds = .int seconds)
    (hstop : markEnd s.now seconds = .ok stop) :
    (q.claim s.now).Ends s.broker fun result _ =>
      result = .ok .nothing ↔ Text.Whole q.name ∧ (q.board s.broker).pending = [] ∧
        ∀ entry ∈ (q.board s.broker).delayed, entry.1.le s.now = false := by
  apply (hledger.ends_claim_next hlease hstop).mono
  intro result t hresult
  rw [← h.next?_eq_none_iff]
  cases hnext : (q.board s.broker).next? s.now with
  | some text =>
      rw [hnext] at hresult
      obtain ⟨m, -, rfl⟩ := hresult
      simp
  | none =>
      rw [hnext] at hresult
      dsimp only at hresult
      split at hresult
      next hname => exact iff_of_true hresult ⟨hname, rfl⟩
      next hname =>
        obtain ⟨fault, rfl⟩ := hresult
        exact iff_of_false (by simp) fun hboth => hname hboth.1

/-- Along a run the messages that claims handed out are read of the texts that joined the pending
ones first, in the order in which they joined, and what is pending is the rest.  A message that
was put off joins once, and not before there is a claim when it is due.  A claim answers nothing
if and only if nothing is pending and nothing is due, where the name of the queue has an
encoding. -/
theorem handed_out_in_order (q : Queue) (hlease : q.leaseSeconds = .int seconds)
    (hstart : Timely seconds start) (hmoves : ∀ move ∈ moves, move.Regular seconds)
    (hshort : moves.length + 1 < Message.attemptLimit) (s : Scene)
    (hs : s = q.run (Scene.start start) moves) (w : Traffic) (hw : w = q.traffic start moves) :
    (∃ taken, taken.map Message.decode = w.handed.map .ok ∧
      w.joined = taken ++ (q.board s.broker).pending.reverse) ∧
    (∀ before move more due text, moves = before ++ move :: more →
      q.posted? (q.run (Scene.start start) before) move = some (some due, text) →
        w.joined.count text ≤ 1 ∧
          (text ∈ w.joined ↔
            q.ClaimedBy (q.run (Scene.start start) (before ++ [move])) more due)) ∧
    (q.claim s.now).Ends s.broker fun result _ =>
      result = .ok .nothing ↔ Text.Whole q.name ∧ (q.board s.broker).pending = [] ∧
        ∀ entry ∈ (q.board s.broker).delayed, entry.1.le s.now = false := by
  subst hs hw
  have haccounts := accounts_run hlease hstart hmoves hshort
  obtain ⟨-, stop, hstop⟩ : Timely seconds _ := timely_run (q := q) hstart hmoves
  refine ⟨haccounts.split, ?_, ?_⟩
  · rintro before move more due text rfl hposted
    exact joined_once_iff hlease hstart hmoves hshort hposted
  · exact haccounts.ends_claim_nothing (q.sound_run start moves).ledger hlease hstop

/-- A comment is put off by five seconds, and another one is published at once. -/
def twoComments : List Move :=
  [.publish commentEvent (.int 5) true, .publish commentEvent (.int 0) false, .claim,
    .wait (Double.ofNat 10), .claim]

theorem timely_minute {now : Double} (h : (Double.zeroOf false).le now = true)
    (hstop : (markEnd now 60).toOption.isSome = true) : Timely 60 now := by
  obtain ⟨stop, hstop⟩ := Option.isSome_iff_exists.mp hstop
  exact ⟨h, stop, toOption_eq_some_iff.mp hstop⟩

theorem handed_out_in_order_comments :
    ∃ w, w = minuteQueue.traffic (Double.ofNat 0) twoComments ∧
      (∃ taken, taken.map Message.decode = w.handed.map .ok ∧ taken <+: w.joined) ∧
      ∃ text, minuteQueue.posted? (Scene.start (Double.ofNat 0))
          (.publish commentEvent (.int 5) true) = some (some (Double.ofNat 5), text) ∧
        w.joined.count text = 1 := by
  have hstart : Timely 60 (Double.ofNat 0) := timely_minute (by decide +kernel) (by decide +kernel)
  have hlater : Timely 60 (Double.ofNat 10) :=
    timely_minute (by decide +kernel) (by decide +kernel)
  have hmoves : ∀ move ∈ twoComments, move.Regular 60 := by
    simp only [twoComments, List.forall_mem_cons, Move.Regular]
    exact ⟨⟨5, rfl⟩, ⟨0, rfl⟩, trivial, hlater, trivial, by simp⟩
  have hshort : twoComments.length + 1 < Message.attemptLimit := Message.lt_attemptLimit (by decide)
  have hdue : (minuteQueue.posted? (Scene.start (Double.ofNat 0))
      (.publish commentEvent (.int 5) true)).map Prod.fst = some (some (Double.ofNat 5)) := by
    decide +kernel
  have hready : (Double.ofNat 5).le (Double.ofNat 10) = true := by decide +kernel
  obtain ⟨⟨taken, hread, hjoined⟩, hdelayed, -⟩ := handed_out_in_order minuteQueue
    (rfl : minuteQueue.leaseSeconds = .int 60) hstart hmoves hshort _ rfl _ rfl
  obtain ⟨⟨due?, text⟩, hposted, rfl⟩ := Option.map_eq_some_iff.mp hdue
  have honce := hdelayed [] _ _ (Double.ofNat 5) text rfl hposted
  have hclaimed : minuteQueue.ClaimedBy
      (minuteQueue.run (Scene.start (Double.ofNat 0)) [.publish commentEvent (.int 5) true])
      [.publish commentEvent (.int 0) false, .claim, .wait (Double.ofNat 10), .claim]
      (Double.ofNat 5) :=
    ⟨[.publish commentEvent (.int 0) false, .claim, .wait (Double.ofNat 10)], [], rfl, hready⟩
  have hpos := List.count_pos_iff.mpr (honce.2.mpr hclaimed)
  exact ⟨_, rfl, ⟨taken, hread, hjoined ▸ List.prefix_append _ _⟩, text, hposted,
    le_antisymm honce.1 hpos⟩

/-- A queue whose leases end later than the store can count. -/
def endlessQueue : Queue := ⟨"events", .int 1000000000000000000, false⟩

/-- A queue with a name that has no encoding. -/
def unnamableQueue : Queue := ⟨String.ofList [Text.ofHalf 0xD800], .int 60, false⟩

/-- A comment that is put off before the epoch is due before the epoch. -/
def earlyComment : List Move :=
  [.publish commentEvent (.int 5) true, .wait (Double.ofNat 0)]

/-- A text is taken and not handed out where its lease has no end that the store can count.  A
claim fails under a name that has no encoding, though nothing waits; and it finds nothing of what
was due before the epoch. -/
theorem exists_not_handed_out :
    (¬∃ taken, taken.map Message.decode = (endlessQueue.traffic (Double.ofNat 0)
          [.publish commentEvent (.int 0) true, .claim]).handed.map .ok ∧
        (endlessQueue.traffic (Double.ofNat 0)
          [.publish commentEvent (.int 0) true, .claim]).joined
          = taken ++ (endlessQueue.board (endlessQueue.run (Scene.start (Double.ofNat 0))
            [.publish commentEvent (.int 0) true, .claim]).broker).pending.reverse) ∧
      ((unnamableQueue.claim (Double.ofNat 0)).run Broker.empty).result.toOption.isNone = true ∧
      ((minuteQueue.claim (Double.ofNat 0)).run (minuteQueue.run
          (Scene.start (Double.ofRatio true 10 1)) earlyComment).broker).result.toOption.any
        (fun | .nothing => true | _ => false) = true ∧
      (minuteQueue.board (minuteQueue.run (Scene.start (Double.ofRatio true 10 1))
        earlyComment).broker).delayed.any (·.1.le (Double.ofNat 0)) = true := by
  obtain ⟨hjoined, hhanded, hpending⟩ : (endlessQueue.traffic (Double.ofNat 0)
        [.publish commentEvent (.int 0) true, .claim]).joined.length = 1 ∧
      (endlessQueue.traffic (Double.ofNat 0)
        [.publish commentEvent (.int 0) true, .claim]).handed.length = 0 ∧
      (endlessQueue.board (endlessQueue.run (Scene.start (Double.ofNat 0))
        [.publish commentEvent (.int 0) true, .claim]).broker).pending.length = 0 := by
    decide +kernel
  refine ⟨?_, by decide +kernel, by decide +kernel⟩
  rintro ⟨taken, hread, hsplit⟩
  have hcount := congrArg List.length hread
  have htotal := congrArg List.length hsplit
  rw [List.length_map, List.length_map] at hcount
  rw [List.length_append, List.length_reverse] at htotal
  omega

end Queue

end CaseWorkflow
