import CaseWorkflow.Proofs.Queue.Ledger

/-!
# Runs of a queue

A run is a row of moves: events are published, messages are claimed, copies of messages
are completed, retried or given up, expired messages are returned, and time passes.  A
copy may be settled at any time and as often as one likes, whatever has become of its
message.  A move that ends with a fault leaves the store as far as it came.
-/

namespace CaseWorkflow

/-- A queue at work: its store, the time, the copies that claims and retries answered, the
messages that were published, and the ids that were completed. -/
structure Scene where
  broker : Broker
  now : Double
  copies : List Message
  published : List Message
  completed : List Value

/-- What can be done with a queue.  A copy is meant by its place among those answered. -/
inductive Move where
  | publish (event : Event) (delay : Value) (deduplicate : Bool)
  | claim
  | complete (copy : ℕ)
  | retry (copy : ℕ)
  | bury (copy : ℕ) (reason : String)
  | requeue (limit : Value)
  | wait (now : Double)

/-- An empty queue at some time. -/
def Scene.start (now : Double) : Scene := ⟨Broker.empty, now, [], [], []⟩

namespace Queue

/-- The scene after a move. -/
def step (q : Queue) (s : Scene) : Move → Scene
  | .publish event delay deduplicate =>
    let outcome := (q.publish s.now event delay deduplicate).run s.broker
    { s with
      broker := outcome.state
      published := outcome.result.toOption.join.toList ++ s.published }
  | .claim =>
    let outcome := (q.claim s.now).run s.broker
    { s with
      broker := outcome.state
      copies := s.copies ++ (outcome.result.toOption.bind Claim.message?).toList }
  | .complete copy =>
    match s.copies[copy]? with
    | none => s
    | some c =>
      { s with
        broker := ((q.complete s.now c).run s.broker).state
        completed := c.id :: s.completed }
  | .retry copy =>
    match s.copies[copy]? with
    | none => s
    | some c =>
      let outcome := (q.retry s.now c).run s.broker
      { s with
        broker := outcome.state
        copies := s.copies ++ outcome.result.toOption.toList }
  | .bury copy reason =>
    match s.copies[copy]? with
    | none => s
    | some c => { s with broker := ((q.bury s.now c (.text reason)).run s.broker).state }
  | .requeue limit => { s with broker := ((q.requeueExpired s.now limit).run s.broker).state }
  | .wait now => { s with now }

/-- The scene after a row of moves. -/
def run (q : Queue) (s : Scene) (moves : List Move) : Scene := moves.foldl q.step s

theorem run_append (q : Queue) (s : Scene) (moves more : List Move) :
    q.run s (moves ++ more) = q.run (q.run s moves) more := List.foldl_append

theorem run_concat (q : Queue) (s : Scene) (moves : List Move) (move : Move) :
    q.run s (moves ++ [move]) = q.step (q.run s moves) move := by
  rw [run_append]
  rfl

/-- An event as it is published when someone comments. -/
def commentEvent : Event where
  id := "e"
  kind := .commentAdded
  entity := []
  context := []
  occurredAt := Moment.earliest

/-- A queue that leaves a claimed message to its worker for a minute. -/
def minuteQueue : Queue := ⟨"events", .int 60, false⟩

/-- One message is claimed, and returned after its lease has ended. -/
def expiry : List Move :=
  [.publish commentEvent (.int 0) true, .claim, .wait (Double.ofNat 61), .requeue (.int 3)]

/-! ## The ledger of a run -/

/-- The ledger is kept, and each copy is one of a published message. -/
structure Sound (q : Queue) (bound : ℕ) (s : Scene) : Prop where
  ledger : q.Ledger s.published bound s.broker
  copies : ∀ c ∈ s.copies, ∃ p ∈ s.published, ∃ k ≤ bound, p.Copy k c

theorem sound_start (q : Queue) (now : Double) : q.Sound 1 (Scene.start now) :=
  ⟨q.ledger_empty, by simp [Scene.start]⟩

variable {q : Queue} {s : Scene} {bound : ℕ} {c : Message}

theorem Sound.copy (h : q.Sound bound s) {copy : ℕ} (hcopy : s.copies[copy]? = some c) :
    ∃ p ∈ s.published, ∃ k ≤ bound, p.Copy k c :=
  h.copies c (List.mem_of_getElem? hcopy)

theorem eq_message_of_message? {answer : Claim} {m : Message} (h : answer.message? = some m) :
    answer = .message m := by
  cases answer with
  | message other => exact congrArg Claim.message (Option.some.inj h)
  | nothing | blank => cases h

theorem Sound.copies_append (h : q.Sound bound s) {published : List Message}
    (hsubset : s.published ⊆ published) {answer : Option Message}
    (hanswer : ∀ c, answer = some c → ∃ p ∈ published, ∃ k ≤ bound + 1, p.Copy k c) :
    ∀ c ∈ s.copies ++ answer.toList, ∃ p ∈ published, ∃ k ≤ bound + 1, p.Copy k c := by
  intro c hc
  rcases List.mem_append.mp hc with hc | hc
  · obtain ⟨p, hp, k, hk, hcopy⟩ := h.copies c hc
    exact ⟨p, hsubset hp, k, by omega, hcopy⟩
  · exact hanswer c (Option.mem_toList.mp hc)

theorem Sound.copies_later (h : q.Sound bound s) {published : List Message}
    (hsubset : s.published ⊆ published) :
    ∀ c ∈ s.copies, ∃ p ∈ published, ∃ k ≤ bound + 1, p.Copy k c := by
  have happend := h.copies_append hsubset (fun c (hc : none = some c) => by cases hc)
  rwa [Option.toList_none, List.append_nil] at happend

/-- A move keeps the ledger.  An attempt may rise by one. -/
theorem Sound.step (h : q.Sound bound s) (hbound : 1 ≤ bound) (move : Move) :
    q.Sound (bound + 1) (q.step s move) := by
  have hlater := h.ledger.mono (Nat.le_add_right bound 1)
  have hcopies := h.copies_later (List.Subset.refl s.published)
  cases move with
  | publish event delay deduplicate =>
      have hends := h.ledger.ends_publish hbound s.now event delay deduplicate
      simp only [Queue.step]
      unfold Attempt.Ends at hends
      generalize (q.publish s.now event delay deduplicate).run s.broker = outcome at hends ⊢
      obtain ⟨result, t, notes⟩ := outcome
      rcases result with fault | _ | p
      · exact ⟨hends.1.mono (by omega), hcopies⟩
      · exact ⟨hends.1.mono (by omega), hcopies⟩
      · exact ⟨hends.1.mono (by omega), h.copies_later (List.subset_cons_self p s.published)⟩
  | claim =>
      obtain ⟨hledger, -, -, hcopy⟩ := h.ledger.ends_claim s.now
      refine ⟨hledger.mono (by omega), h.copies_append (List.Subset.refl _) fun c hc => ?_⟩
      obtain ⟨answer, hanswer, hmessage⟩ := Option.bind_eq_some_iff.mp hc
      obtain rfl := eq_message_of_message? hmessage
      obtain ⟨p, hp, k, hk, hcopy⟩ := hcopy c (Attempt.toOption_eq_some_iff.mp hanswer)
      exact ⟨p, hp, k, by omega, hcopy⟩
  | complete copy =>
      simp only [Queue.step]
      split
      next => exact ⟨hlater, hcopies⟩
      next c hc =>
        obtain ⟨p, hp, k, hk, hcopy⟩ := h.copy hc
        have hends := h.ledger.ends_release hp hcopy s.now
        exact ⟨hends.1.mono (by omega), hcopies⟩
  | retry copy =>
      simp only [Queue.step]
      split
      next => exact ⟨hlater, hcopies⟩
      next c hc =>
        obtain ⟨p, hp, k, hk, hcopy⟩ := h.copy hc
        obtain ⟨hledger, hends⟩ := hlater.ends_retry hp (by omega) hcopy s.now
        refine ⟨hledger, h.copies_append (List.Subset.refl _) fun next hnext => ?_⟩
        have hok := Attempt.toOption_eq_some_iff.mp hnext
        rcases hends with ⟨-, fault, hfault⟩ | ⟨text?, -, ⟨-, -, fault, hfault⟩ |
          ⟨text, next', -, hcopy', hresult, -⟩⟩
        · cases hfault.symm.trans hok
        · cases hfault.symm.trans hok
        · obtain rfl := Except.ok.inj (hresult.symm.trans hok)
          exact ⟨p, hp, k + 1, by omega, hcopy'⟩
  | bury copy reason =>
      simp only [Queue.step]
      split
      next => exact ⟨hlater, hcopies⟩
      next c hc =>
        obtain ⟨p, hp, k, hk, hcopy⟩ := h.copy hc
        have hends := h.ledger.ends_bury hp hk hcopy s.now reason
        exact ⟨hends.1.mono (by omega), hcopies⟩
  | requeue limit =>
      have hends := h.ledger.ends_requeueExpired (K := fun _ _ => True) (L := fun _ => True) s.now
        limit trivial (fun _ _ _ => trivial) (fun _ _ _ _ => trivial)
        (fun _ _ _ _ _ _ _ _ _ _ _ _ _ => ⟨trivial, fun _ => trivial⟩)
      exact ⟨hends.1, hcopies⟩
  | wait now => exact ⟨hlater, hcopies⟩

theorem sound_run (q : Queue) (now : Double) (moves : List Move) :
    q.Sound (moves.length + 1) (q.run (Scene.start now) moves) := by
  induction moves using List.reverseRecOn with
  | nil => exact q.sound_start now
  | append_singleton moves move ih =>
      rw [run_concat, List.length_append, List.length_singleton]
      exact ih.step (by omega) move

end Queue

end CaseWorkflow
