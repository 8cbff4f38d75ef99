import CaseWorkflow.Proofs.Queue.Scene
import CaseWorkflow.Proofs.Worker.Processing

/-!
# Deliveries

Workers share a queue.  Each processes one message at a time, whatever its registry makes of
the event; some die with the message that they claimed, and what they leave behind is
returned when its lease has ended.  A message is delivered for its attempts one by one, until
it is handled or given up.
-/

namespace CaseWorkflow

/-- A queue with its workers: its store, the time, the messages that were published, the texts
that were claimed, in the order of their claims, and those among them that were handled. -/
structure Shift where
  broker : Broker
  now : Double
  published : List Message
  taken : List String
  handled : List String

/-- What can happen next.  A worker processes a message with any registry, or claims one and
dies; expired messages are returned with the usual limit. -/
inductive Turn where
  | publish (event : Event) (delay : Value) (deduplicate : Bool)
  | process (desk : Desk) (worker : Worker)
  | abandon
  | recover
  | wait (now : Double)

/-- An empty queue at some time. -/
def Shift.start (now : Double) : Shift := ⟨Broker.empty, now, [], [], []⟩

namespace Queue

/-- The texts that a claim brings among the claimed ones. -/
def takes (q : Queue) (now : Double) (b : Broker) : List String :=
  (q.board ((q.claim now).run b).state).processing.diff (q.board b).processing

/-- The shift after a turn. -/
def turn (q : Queue) (limit : ℤ) (s : Shift) : Turn → Shift
  | .publish event delay deduplicate =>
    let outcome := (q.publish s.now event delay deduplicate).run s.broker
    { s with
      broker := outcome.state
      published := outcome.result.toOption.join.toList ++ s.published }
  | .process desk worker =>
    let station : Station := ⟨desk, s.broker, { worker with queue := q, maxAttempts := limit }⟩
    let outcome := (Station.processOne ⟨s.now⟩).run station
    { s with
      broker := outcome.state.broker
      taken := s.taken ++ q.takes s.now s.broker
      handled :=
        s.handled ++
          if outcome.result.toOption = some .handled then q.takes s.now s.broker else [] }
  | .abandon =>
    { s with
      broker := ((q.claim s.now).run s.broker).state
      taken := s.taken ++ q.takes s.now s.broker }
  | .recover => { s with broker := ((q.requeueExpired s.now (.int limit)).run s.broker).state }
  | .wait now => { s with now }

/-- The shift after a row of turns. -/
def turns (q : Queue) (limit : ℤ) (s : Shift) (row : List Turn) : Shift :=
  row.foldl (q.turn limit) s

theorem turns_append (q : Queue) (limit : ℤ) (s : Shift) (row more : List Turn) :
    q.turns limit s (row ++ more) = q.turns limit (q.turns limit s row) more := List.foldl_append

theorem turns_concat (q : Queue) (limit : ℤ) (s : Shift) (row : List Turn) (next : Turn) :
    q.turns limit s (row ++ [next]) = q.turn limit (q.turns limit s row) next := by
  rw [turns_append]
  rfl

/-! ## What holds during a shift -/

/-- Each text belongs to a published message. -/
def Recorded (published : List Message) (texts : List String) : Prop :=
  ∀ text ∈ texts, ∃ p ∈ published, ∃ k, p.Entry k none text

/-- The ledger is kept, and each message is in one of its situations. -/
structure Orderly (q : Queue) (limit : ℤ) (bound : ℕ) (s : Shift) : Prop where
  ledger : q.Ledger s.published bound s.broker
  taken : Recorded s.published s.taken
  handled : Recorded s.published s.handled
  situated : ∀ p ∈ s.published, Situated limit s.taken s.handled (q.board s.broker) p

theorem orderly_start (q : Queue) (limit : ℤ) (now : Double) :
    q.Orderly limit 1 (Shift.start now) :=
  ⟨q.ledger_empty, by simp [Recorded, Shift.start], by simp [Recorded, Shift.start],
    by simp [Shift.start]⟩

variable {q : Queue} {limit : ℤ} {bound : ℕ} {s : Shift} {b t : Broker}
variable {published : List Message} {p : Message}

theorem Recorded.append {texts more : List String} (h : Recorded published texts)
    (hmore : Recorded published more) : Recorded published (texts ++ more) := by
  intro text htext
  rcases List.mem_append.mp htext with htext | htext
  · exact h text htext
  · exact hmore text htext

theorem Recorded.cons {texts : List String} (h : Recorded published texts) :
    Recorded (p :: published) texts := by
  intro text htext
  obtain ⟨owner, howner, hentry⟩ := h text htext
  exact ⟨owner, List.mem_cons_of_mem p howner, hentry⟩

/-- No text that was recorded before stands for a message that is published later. -/
theorem Recorded.not_owns {texts : List String} (h : Recorded published texts)
    (hlater : q.Ledger (p :: published) bound t) (hfresh : ∀ p' ∈ published, p'.id ≠ p.id) :
    ∀ text ∈ texts, ¬p.owns text = true := by
  intro text htext howns
  obtain ⟨owner, howner, k, hentry⟩ := h text htext
  obtain rfl :=
    (hlater.owns_iff (List.mem_cons_of_mem p howner) List.mem_cons_self hentry).mp howns
  exact hfresh p howner rfl

theorem Ledger.recorded_next (h : q.Ledger published bound b) (now : Double) :
    Recorded published ((q.board b).next? now).toList := by
  intro text htext
  obtain ⟨hwaiting, -, -⟩ := Board.claimed_of_next (Option.mem_toList.mp htext)
  obtain ⟨p, hp, k, -, hentry⟩ := h.waiting text (hwaiting.mem_iff.mpr List.mem_cons_self)
  exact ⟨p, hp, k, hentry⟩

/-- A claim takes the next text. -/
theorem Ledger.takes_eq (h : q.Ledger published bound b) (now : Double) :
    q.takes now b = ((q.board b).next? now).toList := by
  obtain ⟨-, hboard, -⟩ := h.ends_claim now
  rw [takes, hboard]
  cases hnext : (q.board b).next? now with
  | none =>
      rw [(Board.claimed_of_no_next hnext).2.1, Option.toList_none, ← Multiset.coe_eq_zero,
        ← Multiset.coe_sub, tsub_self]
  | some text =>
      rw [(Board.claimed_of_next hnext).2.1, Option.toList_some, ← Multiset.coe_eq_singleton,
        ← Multiset.coe_sub, ← Multiset.cons_coe, ← Multiset.singleton_add, add_tsub_cancel_right]

/-! ## Turns -/

/-- What was given up or handled is claimed no more. -/
def Stays (q : Queue) (p : Message) (s s' : Shift) : Prop :=
  ((q.board s.broker).view p).Closed →
    s'.taken.filter p.owns = s.taken.filter p.owns ∧ ((q.board s'.broker).view p).Closed

theorem Stays.trans {s' s'' : Shift} (h : q.Stays p s s') (h' : q.Stays p s' s'') :
    q.Stays p s s'' := by
  intro hclosed
  obtain ⟨htaken, hclosed'⟩ := h hclosed
  obtain ⟨htaken', hclosed''⟩ := h' hclosed'
  exact ⟨htaken'.trans htaken, hclosed''⟩

theorem Orderly.unchanged {later : ℕ} (h : q.Orderly limit bound s)
    (hledger : q.Ledger s.published later t) (hboard : q.board t = q.board s.broker) :
    q.Orderly limit later { s with broker := t } ∧
      ∀ p ∈ s.published, q.Stays p s { s with broker := t } := by
  refine ⟨⟨hledger, h.taken, h.handled, ?_⟩, fun p hp hclosed => ⟨rfl, ?_⟩⟩
  · exact hboard.symm ▸ h.situated
  · exact hboard.symm ▸ hclosed

theorem Orderly.publish (h : q.Orderly limit bound s) (hbound : 1 ≤ bound) (event : Event)
    (delay : Value) (deduplicate : Bool) :
    q.Orderly limit bound (q.turn limit s (.publish event delay deduplicate)) ∧
      ∀ p ∈ s.published, q.Stays p s (q.turn limit s (.publish event delay deduplicate)) := by
  have hends := h.ledger.ends_publish hbound s.now event delay deduplicate
  simp only [turn]
  unfold Attempt.Ends at hends
  generalize (q.publish s.now event delay deduplicate).run s.broker = outcome at hends ⊢
  obtain ⟨result, t, notes⟩ := outcome
  match result with
  | .error fault => exact h.unchanged hends.1 hends.2
  | .ok none => exact h.unchanged hends.1 hends.2
  | .ok (some p) =>
      obtain ⟨hledger, hfresh, hjoined⟩ := hends
      obtain ⟨hview, hothers⟩ := h.ledger.view_joined hledger hfresh hjoined
      have htaken : s.taken.filter p.owns = [] :=
        List.filter_eq_nil_iff.mpr (h.taken.not_owns hledger hfresh)
      have hopen : ¬∃ text ∈ s.handled, p.owns text = true := fun ⟨text, htext, howns⟩ =>
        h.handled.not_owns hledger hfresh text htext howns
      refine ⟨⟨hledger, h.taken.cons, h.handled.cons, fun p' hp' => ?_⟩, fun p' hp' hclosed => ?_⟩
      · rcases List.mem_cons.mp hp' with rfl | hp'
        · constructor
          · rw [htaken]
            exact fun i text htext => by simp at htext
          · rw [htaken]
            exact le_max_of_le_left (by simp)
          · rw [htaken]
            change Placed p' limit 0 _ ((q.board t).view p')
            rw [hview]
            exact .waiting hopen (le_max_of_le_left (by simp)) .first
        · exact (h.situated p' hp').of_alike (hothers p' hp')
      · have hsituated := h.situated p' hp'
        refine ⟨rfl, ?_⟩
        change ((q.board t).view p').Closed
        rwa [hsituated.placed.eq_of_alike (hothers p' hp')]

/-- The claim with which a worker begins, whatever it goes on to do. -/
theorem Orderly.claimed (h : q.Orderly limit bound s) :
    q.Orderly limit bound (q.turn limit s .abandon) ∧
      ∀ p ∈ s.published, q.Stays p s (q.turn limit s .abandon) := by
  obtain ⟨hledger, hboard, -⟩ := h.ledger.ends_claim s.now
  have hsituated := fun p hp => Ledger.situated_claimed s.now (h.situated p hp)
  simp only [turn, Stays]
  rw [h.ledger.takes_eq]
  constructor
  · constructor
    · exact hledger
    · exact h.taken.append (h.ledger.recorded_next s.now)
    · exact h.handled
    · exact fun p hp => hboard.symm ▸ (hsituated p hp).1
  · exact fun p hp hclosed => hboard.symm ▸ (hsituated p hp).2 hclosed

theorem Orderly.settled {later k : ℕ} {text : String} (h : q.Orderly limit bound s)
    (hledger : q.Ledger s.published later t) (hp : p ∈ s.published) (hentry : p.Entry k none text)
    (hmem : text ∈ (q.board s.broker).processing)
    (hsettles : Settles p k limit (q.board s.broker) (q.board t)) :
    q.Orderly limit later { s with broker := t } ∧
      ∀ p' ∈ s.published, q.Stays p' s { s with broker := t } := by
  have hsettled := fun p' hp' =>
    h.ledger.situated_settles hp hentry hmem hsettles hp' (h.situated p' hp')
  refine ⟨⟨hledger, h.taken, h.handled, fun p' hp' => (hsettled p' hp').1⟩, ?_⟩
  exact fun p' hp' hclosed => ⟨rfl, (hsettled p' hp').2 hclosed⟩

theorem Orderly.dropped {later k : ℕ} {text : String} {text? : Option String}
    (h : q.Orderly limit bound s) (hledger : q.Ledger s.published later t) (hp : p ∈ s.published)
    (hentry : p.Entry k none text) (hmem : text ∈ (q.board s.broker).processing)
    (hfound : Ledger.Found (q.board s.broker).processing p text?)
    (hboard : q.board t = (q.board s.broker).dropped text?) :
    q.Orderly limit later { s with broker := t, handled := s.handled ++ [text] } ∧
      ∀ p' ∈ s.published, q.Stays p' s { s with broker := t, handled := s.handled ++ [text] } := by
  have hdropped := fun p' hp' =>
    h.ledger.situated_handled hp hentry hmem hfound hp' (h.situated p' hp')
  rw [← hboard] at hdropped
  refine ⟨⟨hledger, h.taken, h.handled.append ?_, fun p' hp' => (hdropped p' hp').1⟩, ?_⟩
  · intro other hother
    obtain rfl := List.mem_singleton.mp hother
    exact ⟨p, hp, k, hentry⟩
  · exact fun p' hp' hclosed => ⟨rfl, (hdropped p' hp').2 hclosed⟩

/-- Processing is a claim and what is made of the message behind it. -/
theorem Orderly.process (h : q.Orderly limit bound s) (hlimit : limit < Message.attemptLimit)
    (desk : Desk) (worker : Worker) :
    q.Orderly limit (bound + 1) (q.turn limit s (.process desk worker)) ∧
      ∀ p ∈ s.published, q.Stays p s (q.turn limit s (.process desk worker)) := by
  obtain ⟨hclaimed, hstays⟩ := h.claimed
  obtain ⟨-, hboard, -⟩ := h.ledger.ends_claim s.now
  let station : Station := ⟨desk, s.broker, { worker with queue := q, maxAttempts := limit }⟩
  obtain ⟨hlater, hprocesses⟩ :=
    Station.ends_processOne (s := station) h.ledger ⟨s.now⟩ rfl rfl hlimit
  have hthen : ∀ s', (q.Orderly limit (bound + 1) s' ∧
      ∀ p ∈ s.published, q.Stays p (q.turn limit s .abandon) s') →
      q.Orderly limit (bound + 1) s' ∧ ∀ p ∈ s.published, q.Stays p s s' :=
    fun s' h' => ⟨h'.1, fun p hp => (hstays p hp).trans (h'.2 p hp)⟩
  change Station.Processes s.published limit ((q.board s.broker).claimed s.now)
    ((q.board s.broker).next? s.now) _ _ at hprocesses
  rw [← hboard] at hprocesses
  apply hthen
  simp only [turn] at hclaimed ⊢
  cases hnext : (q.board s.broker).next? s.now with
  | none =>
      rw [hnext] at hprocesses
      rw [if_neg (mt Attempt.toOption_eq_some_iff.mp hprocesses.1), List.append_nil]
      exact hclaimed.unchanged hlater hprocesses.2
  | some text =>
      rw [hnext] at hprocesses
      obtain ⟨p, hp, k, hentry, hprocesses⟩ := hprocesses
      have hmem : text ∈ (q.board ((q.claim s.now).run s.broker).state).processing := by
        rw [hboard, (Board.claimed_of_next hnext).2.1]
        exact List.mem_cons_self
      rcases hprocesses with ⟨hhandled, text?, hfound, hdropped⟩ | ⟨hnot, hsettles⟩
      · rw [if_pos (Attempt.toOption_eq_some_iff.mpr hhandled), h.ledger.takes_eq, hnext]
        rw [h.ledger.takes_eq, hnext] at hclaimed
        exact hclaimed.dropped hlater hp hentry hmem hfound hdropped
      · rw [if_neg (mt Attempt.toOption_eq_some_iff.mp hnot), List.append_nil]
        exact hclaimed.settled hlater hp hentry hmem hsettles

/-- A settlement of one message leaves the claimed texts of the others. -/
theorem Ledger.mem_processing_of_settles {k : ℕ} {text : String} {places : Board}
    (hsettles : Settles p k limit (q.board b) places) (hnot : ¬p.owns text = true)
    (hmem : text ∈ (q.board b).processing) : text ∈ places.processing := by
  have hdropped : ∀ {text? : Option String}, Found (q.board b).processing p text? →
      text ∈ ((q.board b).dropped text?).processing := by
    intro text? hfound
    cases text? with
    | none => exact hmem
    | some other =>
        have hne : text ≠ other := by
          rintro rfl
          exact hnot hfound.2
        exact (List.mem_erase_of_ne hne).mpr hmem
  cases hsettles with
  | kept => exact hmem
  | queued hfound _ _ => exact hdropped hfound
  | buried hfound _ => exact hdropped hfound

/-- The returned messages are claimed, each with one text. -/
structure Returnable (published : List Message) (texts : List String) (places : Board) : Prop where
  claimed : ∀ text ∈ texts, text ∈ places.processing
  single : ∀ p ∈ published, (texts.filter p.owns).length ≤ 1

theorem Returnable.tail {text : String} {rest : List String} {places : Board}
    (h : Returnable published (text :: rest) places) : Returnable published rest places := by
  constructor
  · exact fun other hother => h.claimed other (List.mem_cons_of_mem text hother)
  · intro p hp
    exact ((List.sublist_cons_self text rest).filter p.owns).length_le.trans (h.single p hp)

theorem Returnable.settled {k : ℕ} {text : String} {rest : List String} {places : Board}
    (h : Returnable published (text :: rest) (q.board b)) (hledger : q.Ledger published bound b)
    (hp : p ∈ published) (hentry : p.Entry k none text)
    (hsettles : Settles p k limit (q.board b) places) : Returnable published rest places := by
  have hnot : ∀ other ∈ rest, ¬p.owns other = true := by
    intro other hother howns
    have hsingle := h.single p hp
    rw [List.filter_cons_of_pos (hentry.owns (hledger.issued p hp)), List.length_cons] at hsingle
    have hmem : other ∈ rest.filter p.owns := List.mem_filter.mpr ⟨hother, howns⟩
    have hlength := List.length_pos_of_mem hmem
    omega
  constructor
  · intro other hother
    have hclaimed := h.tail.claimed other hother
    exact Ledger.mem_processing_of_settles hsettles (hnot other hother) hclaimed
  · exact h.tail.single

theorem Orderly.returnable (h : q.Orderly limit bound s) :
    Returnable s.published (q.board s.broker).processing (q.board s.broker) := by
  constructor
  · exact fun text htext => htext
  · intro p hp
    have hshort := (h.situated p hp).placed.length_le_one
    simp only [View.texts, List.length_append, Board.view] at hshort
    omega

theorem Orderly.recover (h : q.Orderly limit bound s) (hlimit : limit < Message.attemptLimit) :
    q.Orderly limit (bound + 1) (q.turn limit s .recover) ∧
      ∀ p ∈ s.published, q.Stays p s (q.turn limit s .recover) := by
  have hends := h.ledger.ends_requeueExpired
    (K := fun texts places => Returnable s.published texts places ∧
      ∀ p ∈ s.published, Situated limit s.taken s.handled places p ∧
        (((q.board s.broker).view p).Closed → (places.view p).Closed))
    (L := fun places => ∀ p ∈ s.published, Situated limit s.taken s.handled places p ∧
        (((q.board s.broker).view p).Closed → (places.view p).Closed)) s.now (.int limit)
    ⟨h.returnable, fun p hp => ⟨h.situated p hp, id⟩⟩ (fun _ _ hk => hk.2)
    (fun _ _ _ hk => ⟨hk.1.tail, hk.2⟩) ?_
  · obtain ⟨hledger, hkept⟩ := hends
    refine ⟨⟨hledger, h.taken, h.handled, fun p hp => (hkept p hp).1⟩, ?_⟩
    exact fun p hp hclosed => ⟨rfl, (hkept p hp).2 hclosed⟩
  · rintro text rest b t p k result hledger ⟨hreturnable, hkept⟩ hp - hentry hreturns
    have hsettles := Ledger.settles_of_returns hlimit hreturns
    have hmem := hreturnable.claimed text List.mem_cons_self
    have hafter : ∀ p' ∈ s.published, Situated limit s.taken s.handled (q.board t) p' ∧
        (((q.board s.broker).view p').Closed → ((q.board t).view p').Closed) := by
      intro p' hp'
      obtain ⟨hsituated, hclosed⟩ := hkept p' hp'
      obtain ⟨hsituated', hclosed'⟩ :=
        hledger.situated_settles hp hentry hmem hsettles hp' hsituated
      exact ⟨hsituated', hclosed' ∘ hclosed⟩
    exact ⟨hafter, fun _ => ⟨hreturnable.settled hledger hp hentry hsettles, hafter⟩⟩

theorem Orderly.mono (h : q.Orderly limit bound s) {later : ℕ} (hle : bound ≤ later) :
    q.Orderly limit later s :=
  ⟨h.ledger.mono hle, h.taken, h.handled, h.situated⟩

/-- A turn keeps the order, and nothing is claimed that was given up or handled. -/
theorem Orderly.turn (h : q.Orderly limit bound s) (hbound : 1 ≤ bound)
    (hlimit : limit < Message.attemptLimit) (next : Turn) :
    q.Orderly limit (bound + 1) (q.turn limit s next) ∧
      ∀ p ∈ s.published, q.Stays p s (q.turn limit s next) := by
  cases next with
  | publish event delay deduplicate =>
      exact (h.publish hbound event delay deduplicate).imp_left fun h' => h'.mono (by omega)
  | process desk worker => exact h.process hlimit desk worker
  | abandon => exact h.claimed.imp_left fun h' => h'.mono (by omega)
  | recover => exact h.recover hlimit
  | wait now =>
      have hlater := h.mono (Nat.le_add_right bound 1)
      exact ⟨⟨hlater.ledger, hlater.taken, hlater.handled, hlater.situated⟩,
        fun p hp hclosed => ⟨rfl, hclosed⟩⟩

theorem orderly_turns (q : Queue) (now : Double) (hlimit : limit < Message.attemptLimit)
    (row : List Turn) : q.Orderly limit (row.length + 1) (q.turns limit (Shift.start now) row) := by
  induction row using List.reverseRecOn with
  | nil => exact q.orderly_start limit now
  | append_singleton row next ih =>
      rw [turns_concat, List.length_append, List.length_singleton]
      exact (ih.turn (by omega) hlimit next).1

theorem published_turn (s : Shift) (next : Turn) :
    s.published ⊆ (q.turn limit s next).published := by
  cases next with
  | publish event delay deduplicate => exact List.subset_append_right _ s.published
  | process | abandon | recover | wait => exact List.Subset.refl _

theorem stays_turns (q : Queue) (now : Double) (hlimit : limit < Message.attemptLimit)
    (row more : List Turn) (hp : p ∈ (q.turns limit (Shift.start now) row).published) :
    p ∈ (q.turns limit (Shift.start now) (row ++ more)).published ∧
      q.Stays p (q.turns limit (Shift.start now) row)
        (q.turns limit (Shift.start now) (row ++ more)) := by
  induction more using List.reverseRecOn with
  | nil =>
      rw [List.append_nil]
      exact ⟨hp, fun hclosed => ⟨rfl, hclosed⟩⟩
  | append_singleton more next ih =>
      rw [← List.append_assoc, turns_concat]
      have horderly := q.orderly_turns now hlimit (row ++ more)
      exact ⟨published_turn _ next ih.1,
        ih.2.trans ((horderly.turn (by omega) hlimit next).2 p ih.1)⟩

/-! ## Deliveries of a message -/

/-- Whether a message was handled. -/
def Handled (s : Shift) (p : Message) : Prop := ∃ text ∈ s.handled, p.owns text = true

/-- Whether a message was given up. -/
def GivenUp (q : Queue) (s : Shift) (p : Message) : Prop :=
  ∃ text ∈ (q.board s.broker).dead, p.owns text = true

/-- A message was handled and left the queue, or it stands there exactly once.  It was claimed
as often as it may be delivered at most, and the claims bear the numbers of its attempts one
by one; only the text that was written for the first attempt can be one that is not read. -/
structure Delivered (q : Queue) (limit : ℤ) (s : Shift) (p : Message) : Prop where
  once : (Handled s p ∧ (q.board s.broker).copies p = 0) ∨
    (¬Handled s p ∧ (q.board s.broker).copies p = 1)
  bounded : (s.taken.filter p.owns).length ≤ max 1 limit
  numbered : ∀ (i : ℕ) text, (s.taken.filter p.owns)[i]? = some text →
    (∃ m, Message.decode text = .ok m ∧ m.id = p.id ∧ m.attempt = .int (i + 1)) ∨
      (i = 0 ∧ text = p.encode)

theorem Orderly.delivered (h : q.Orderly limit bound s) (hp : p ∈ s.published) :
    q.Delivered limit s p := by
  obtain ⟨hnumbered, hbounded, hplaced⟩ := h.situated p hp
  refine ⟨?_, hbounded, fun i text htext => ?_⟩
  · rw [Board.copies_eq_length]
    generalize (q.board s.broker).view p = v at hplaced
    cases hplaced with
    | waiting hopen | claimed hopen | dead hopen => exact .inr ⟨hopen, rfl⟩
    | handled hdone => exact .inl ⟨hdone, rfl⟩
  · have hentry := hnumbered i text htext
    cases hread : Message.decode text with
    | error fault =>
        obtain ⟨rfl, hfirst, -⟩ := hentry.unread hread
        exact .inr ⟨by omega, rfl⟩
    | ok m =>
        have hattempt := hentry.attempt_of_read (h.ledger.issued p hp) hread
        exact .inl ⟨m, rfl, hentry.id_eq (h.ledger.issued p hp) hread, by exact_mod_cast hattempt⟩

theorem Orderly.closed (h : q.Orderly limit bound s) (hp : p ∈ s.published)
    (hover : Handled s p ∨ q.GivenUp s p) : ((q.board s.broker).view p).Closed := by
  have hplaced := (h.situated p hp).placed
  have hdead : q.GivenUp s p → ((q.board s.broker).view p).dead ≠ [] := by
    rintro ⟨text, htext, howns⟩
    exact List.ne_nil_of_mem (List.mem_filter.mpr ⟨htext, howns⟩)
  generalize (q.board s.broker).view p = v at hplaced hdead ⊢
  cases hplaced with
  | waiting hopen | claimed hopen =>
      rcases hover with hdone | hgiven
      · exact absurd hdone hopen
      · exact absurd rfl (hdead hgiven)
  | dead | handled => exact ⟨rfl, rfl⟩

/-- Each message is delivered for its attempts one by one, as often as the limit allows at
most, and never again once it was handled or given up. -/
theorem redelivery_bounded (q : Queue) (limit : ℤ) (hlimit : limit < Message.attemptLimit)
    (now : Double) (row : List Turn) :
    ∀ p ∈ (q.turns limit (Shift.start now) row).published,
      q.Delivered limit (q.turns limit (Shift.start now) row) p ∧
        (Handled (q.turns limit (Shift.start now) row) p ∨
            q.GivenUp (q.turns limit (Shift.start now) row) p →
          ∀ more, (q.turns limit (Shift.start now) (row ++ more)).taken.filter p.owns
            = (q.turns limit (Shift.start now) row).taken.filter p.owns) := by
  intro p hp
  have horderly := q.orderly_turns now hlimit row
  refine ⟨horderly.delivered hp, fun hover more => ?_⟩
  obtain ⟨-, hstays⟩ := q.stays_turns now hlimit row more hp
  exact (hstays (horderly.closed hp hover)).1

/-- A registry without handlers and workflows. -/
def emptyDesk : Desk := ⟨Registry.start Handlers.empty (.int 1) none, 0, []⟩

/-- A worker whose registry fails. -/
def failingWorker : Worker := ⟨minuteQueue, 2, false, true, 0, none⟩

/-- A worker dies with the first delivery, and the second one fails. -/
def crashAndFailure : List Turn :=
  [.publish commentEvent (.int 0) true, .abandon, .wait (Double.ofNat 61), .recover,
    .process emptyDesk failingWorker]

theorem redelivery_bounded_crash_and_failure :
    (2 : ℤ) < Message.attemptLimit ∧
      ∃ p ∈ (minuteQueue.turns 2 (Shift.start (Double.ofNat 0)) crashAndFailure).published,
        minuteQueue.Delivered 2
            (minuteQueue.turns 2 (Shift.start (Double.ofNat 0)) crashAndFailure) p ∧
          (Handled (minuteQueue.turns 2 (Shift.start (Double.ofNat 0)) crashAndFailure) p ∨
              minuteQueue.GivenUp
                (minuteQueue.turns 2 (Shift.start (Double.ofNat 0)) crashAndFailure) p →
            ∀ more,
              (minuteQueue.turns 2 (Shift.start (Double.ofNat 0))
                  (crashAndFailure ++ more)).taken.filter p.owns
                = (minuteQueue.turns 2 (Shift.start (Double.ofNat 0))
                    crashAndFailure).taken.filter p.owns) := by
  have hlimit : (2 : ℤ) < Message.attemptLimit :=
    Int.ofNat_lt.mpr (Message.lt_attemptLimit (by decide))
  have hpublished :
      0 < (minuteQueue.turns 2 (Shift.start (Double.ofNat 0))
        crashAndFailure).published.length := by
    decide +kernel
  obtain ⟨p, hp⟩ := List.exists_mem_of_length_pos hpublished
  exact ⟨hlimit, p, hp, redelivery_bounded minuteQueue 2 hlimit _ crashAndFailure p hp⟩

end Queue

end CaseWorkflow
