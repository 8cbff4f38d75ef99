import CaseWorkflow.Proofs.Queue.Bare
import CaseWorkflow.Proofs.Queue.Guard

/-!
# What the settlements of a copy bring to the pending messages

As long as the next attempt can be written, no settlement of a copy fails: a retry puts the next
attempt behind the pending messages, and the return of expired messages does so for each claimed
one whose lease has ended, unless it was delivered often enough.
-/

namespace CaseWorkflow

open Attempt

/-- The texts joined the pending ones in this order.  What is due later stayed, and nothing was
claimed. -/
structure Board.Gains (texts : List String) (places places' : Board) : Prop where
  pending : places'.pending = texts.reverse ++ places.pending
  delayed : places'.delayed = places.delayed
  processing : places'.processing ⊆ places.processing

namespace Board

variable {texts more : List String} {places places' places'' : Board}

theorem Gains.refl (places : Board) : places.Gains [] places := ⟨rfl, rfl, List.Subset.refl _⟩

theorem Gains.trans (h : places.Gains texts places') (h' : places'.Gains more places'') :
    places.Gains (texts ++ more) places'' where
  pending := by rw [h'.pending, h.pending, List.reverse_append, List.append_assoc]
  delayed := h'.delayed.trans h.delayed
  processing := List.Subset.trans h'.processing h.processing

theorem gains_dropped (text? : Option String) (places : Board) :
    places.Gains [] (places.dropped text?) where
  pending := by cases text? <;> rfl
  delayed := by cases text? <;> rfl
  processing := dropped_processing_subset text? places

theorem gains_queued (text : String) (places : Board) : places.Gains [text] (places.queued text) :=
  ⟨rfl, rfl, List.Subset.refl _⟩

theorem gains_buried (text : String) (places : Board) : places.Gains [] (places.buried text) :=
  ⟨rfl, rfl, List.Subset.refl _⟩

end Board

/-- The message with its next attempt, unless it was delivered as often as the limit says. -/
def Message.again? (limit : ℤ) (m : Message) : Option Message :=
  match m.attempt with
  | .int k => if limit ≤ k then none else some { m with attempt := .int (k + 1) }
  | _ => none

namespace Queue

variable {q : Queue} {b t : Broker} {published : List Message} {bound k : ℕ} {now : Double}
  {p c : Message} {limit : ℤ} {texts : List String}

/-! ## Settling a copy -/

theorem exists_findText (id : Value) (h : ∀ text ∈ texts, ∃ m, Message.decode text = .ok m) :
    ∃ text?, findText id texts = .ok text? := by
  induction texts with
  | nil => exact ⟨none, rfl⟩
  | cons text rest ih =>
      obtain ⟨m, hread⟩ := h text List.mem_cons_self
      rw [findText, hread, Json.ok_bind]
      split
      next => exact ⟨some text, rfl⟩
      next => exact ih fun other hother => h other (List.mem_cons_of_mem text hother)

namespace Ledger

theorem ends_release_ok (h : q.Ledger published bound b) (hp : p ∈ published)
    (hcopy : p.Copy k c) (now : Double) :
    (q.release now c).Ends b fun result t =>
      result = .ok () ∧ ∃ text?, q.Becomes b t ((q.board b).dropped text?) := by
  have hread : ∀ text ∈ (q.board b).processing, ∃ m, Message.decode text = .ok m := by
    intro text htext
    obtain ⟨owner, howner, k, -, hentry⟩ := h.processing text htext
    exact hentry.exists_read (h.issued owner howner)
  obtain ⟨text?, hfind⟩ := exists_findText c.id hread
  have hname := h.named (List.ne_nil_of_mem hp)
  apply (h.tidy.ends_release_of_find hname now (h.nameable hp hcopy) hfind).mono
  rintro result t ⟨rfl, hdropped⟩
  exact ⟨rfl, text?, hdropped⟩

theorem ends_retry_ok (h : q.Ledger published bound b) (hp : p ∈ published) (hcopy : p.Copy k c)
    (hk : k + 1 < Message.attemptLimit) (now : Double) :
    (q.retry now c).Ends b fun result t =>
      ∃ next, c.nextAttempt = .ok next ∧ result = .ok next ∧
        (q.board b).Gains [next.encode] (q.board t) := by
  have hname := h.named (List.ne_nil_of_mem hp)
  obtain ⟨text, hwrite, -, hentry⟩ := (hcopy.write (h.issued p hp)).1 hk
  unfold retry
  apply (h.ends_release_ok hp hcopy now).bind
  · rintro fault t ⟨heq, -⟩
    cases heq
  rintro ⟨⟩ t ⟨-, text?, hdropped⟩
  have hqueued := hdropped.tidy.becomes_pending (text :: t.list q.pending)
  rw [hcopy.nextAttempt]
  apply Ends.bind_ok (gives_ofExcept _ t)
  rw [hwrite]
  apply Ends.bind_ok (gives_ofExcept _ t)
  apply Ends.bind_ok (hdropped.tidy.ask_gives
    (hdropped.tidy.gives_push hname (by simp [listKeys]) hentry.whole now))
  apply Ends.bind_ok (gives_note _ _ _ _)
  refine (gives_pure _ _).ends ⟨_, rfl, rfl, ?_⟩
  rw [← Message.encode_of_write hwrite, hqueued.board, hdropped.board]
  have hpending : t.list q.pending = ((q.board b).dropped text?).pending :=
    congrArg Board.pending hdropped.board
  rw [hpending]
  exact (Board.gains_dropped text? _).trans (Board.gains_queued _ _)

theorem ends_bury_ok (h : q.Ledger published bound b) (hp : p ∈ published) (hcopy : p.Copy k c)
    (now : Double) (reason : String) :
    (q.bury now c (.text reason)).Ends b fun result t =>
      result = .ok () ∧ (q.board b).Gains [] (q.board t) := by
  have hname := h.named (List.ne_nil_of_mem hp)
  obtain ⟨text, hwrite, hentry⟩ := hcopy.buried (h.issued p hp) reason
  unfold bury
  apply (h.ends_release_ok hp hcopy now).bind
  · rintro fault t ⟨heq, -⟩
    cases heq
  rintro ⟨⟩ t ⟨-, text?, hdropped⟩
  have hburied := hdropped.tidy.becomes_dead (text :: t.list q.dead)
  rw [hwrite]
  apply Ends.bind_ok (gives_ofExcept _ t)
  apply Ends.bind_ok (hdropped.tidy.ask_gives
    (hdropped.tidy.gives_push hname (by simp [listKeys]) hentry.whole now))
  refine (gives_note _ _ _ _).ends ⟨rfl, ?_⟩
  rw [hburied.board, hdropped.board]
  have hdead : t.list q.dead = ((q.board b).dropped text?).dead :=
    congrArg Board.dead hdropped.board
  rw [hdead]
  exact (Board.gains_dropped text? _).trans (Board.gains_buried _ _)

theorem ends_returnExpired_ok (h : q.Ledger published bound b) (hp : p ∈ published)
    (hcopy : p.Copy k c) (hk : k + 1 < Message.attemptLimit) (now : Double) (limit : ℤ) :
    (q.returnExpired now (.int limit) c).Ends b fun result t =>
      result = .ok () ∧
        (q.board b).Gains ((c.again? limit).map Message.encode).toList (q.board t) := by
  have hattempt : c.attempt = .int k := by
    obtain ⟨origin, -, -, rfl⟩ := hcopy
    rfl
  have hlimit : Value.atLeast (.int k) (.int limit) = .ok (decide (limit ≤ k)) :=
    congrArg Except.ok (Number.le_int limit k)
  unfold returnExpired
  rw [hattempt, hlimit]
  apply Ends.bind_ok (gives_ofExcept _ b)
  by_cases hspent : limit ≤ k
  · have hnone : c.again? limit = none := by simp [Message.again?, hattempt, hspent]
    rw [hnone]
    simp only [hspent, decide_true, if_true]
    exact h.ends_bury_ok hp hcopy now "lease_expired"
  · have hnext : c.again? limit = some { c with attempt := .int (k + 1 : ℕ) } := by
      simp [Message.again?, hattempt, hspent]
    rw [hnext]
    simp only [hspent, decide_false, Bool.false_eq_true, if_false]
    apply (h.ends_retry_ok hp hcopy hk now).bind
    · rintro fault t ⟨next, -, heq, -⟩
      cases heq
    · rintro next t ⟨next', hnext', heq, hgains⟩
      obtain rfl := Except.ok.inj heq
      obtain rfl := Except.ok.inj (hcopy.nextAttempt.symm.trans hnext')
      exact (gives_pure () t).ends ⟨rfl, hgains⟩

end Ledger

/-! ## Returning what has expired -/

/-- At this time the same leases stand in both stores. -/
def SameLeases (q : Queue) (now : Double) (b t : Broker) : Prop :=
  ∀ id, t.isMarked now (q.lease id) = b.isMarked now (q.lease id)

theorem SameLeases.trans {u : Broker} (h : q.SameLeases now b t) (h' : q.SameLeases now t u) :
    q.SameLeases now b u :=
  fun id => (h' id).trans (h id)

/-- The leases that stand still do, if the lease of the message has ended. -/
def LeasesStay (q : Queue) (now : Double) (id : Value) (b t : Broker) : Prop :=
  b.isMarked now (q.lease id) = false → q.SameLeases now b t

instance (q : Queue) (now : Double) (id : Value) : IsPreorder Broker (q.LeasesStay now id) where
  refl _ _ _ := rfl
  trans _ _ _ h h' hended := (h hended).trans (h' ((h hended id).trans hended))

theorem sameLeases_refreshed (b : Broker) (now : Double) (key : String) :
    q.SameLeases now b (b.refreshed now key) := by
  intro id
  unfold Broker.refreshed
  split
  next hended =>
    simp only [Bool.and_eq_true, Bool.not_eq_true'] at hended
    by_cases heq : q.lease id = key
    · rw [heq, hended.2]
      simp [Broker.isMarked, Table.lookup_erase]
    · simp [Broker.isMarked, Table.lookup_erase, heq]
  next => rfl

theorem leasesStay_without (b : Broker) (now : Double) (id : Value) :
    q.LeasesStay now id b (b.without (q.lease id)) := by
  intro hended other
  by_cases heq : q.lease other = q.lease id
  · rw [heq, hended]
    simp [Broker.isMarked, Broker.without, Table.lookup_erase]
  · simp [Broker.isMarked, Broker.lookup_marks_without heq]

theorem keptByPlaces_leasesStay (q : Queue) (now : Double) (id : Value) :
    q.KeptByPlaces now (q.LeasesStay now id) where
  preorder := inferInstance
  refreshed key _ b _ := sameLeases_refreshed b now key
  list _ _ _ _ _ _ := rfl
  schedule _ _ _ _ := rfl

/-- A lease that is alone under its key is seen if it has not ended. -/
theorem Tidy.ends_holds_bare (h : q.Tidy b) {key : String} (hbare : b.Bare key)
    (hwhole : Text.Whole key) (now : Double) :
    (q.ask (Broker.holds now key)).Ends b fun result t =>
      result = .ok (b.isMarked now key) ∧ t = b.refreshed now key := by
  refine (h.gives_holds hwhole now).ends ⟨?_, rfl⟩
  rw [hbare.holding?]
  cases b.isMarked now key <;> rfl

/-- The texts that are put back of the given ones: the next attempts of the messages whose lease
has ended. -/
def recovered (q : Queue) (b : Broker) (now : Double) (limit : ℤ) (texts : List String) :
    List String :=
  texts.filterMap fun text =>
    (Message.decode text).toOption.bind fun m =>
      if b.isMarked now (q.lease m.id) then none else (m.again? limit).map Message.encode

theorem recovered_of_sameLeases (h : q.SameLeases now b t) (limit : ℤ) (texts : List String) :
    q.recovered t now limit texts = q.recovered b now limit texts := by
  simp only [recovered, h _]

theorem Ledger.ends_requeueTexts_ok (h : q.Ledger published (bound + 1) b)
    (hname : Text.Whole q.name) (hbare : ∀ id, b.Bare (q.lease id))
    (htexts : ∀ text ∈ texts, ∃ p ∈ published, ∃ k ≤ bound, p.Entry k none text)
    (hbound : bound + 1 < Message.attemptLimit) (now : Double) (limit : ℤ) :
    (q.requeueTexts now (.int limit) texts).Ends b fun result t =>
      (∃ count, result = .ok count) ∧
        (q.board b).Gains (q.recovered b now limit texts) (q.board t) := by
  induction texts generalizing b with
  | nil => exact (gives_pure 0 b).ends ⟨⟨0, rfl⟩, .refl _⟩
  | cons text rest ih =>
      obtain ⟨p, hp, k, hk, hentry⟩ := htexts text List.mem_cons_self
      have hrest := fun other hother => htexts other (List.mem_cons_of_mem text hother)
      have hissued := h.issued p hp
      obtain ⟨m, hread⟩ := hentry.exists_read hissued
      have hcopy := hentry.copy hissued hread
      have hwhole := whole_lease hname (h.nameable hp hcopy).id
      unfold requeueTexts
      rw [hread]
      apply Ends.bind_ok (gives_ofExcept _ b)
      apply (h.tidy.ends_holds_bare (hbare m.id) hwhole now).bind
      · rintro fault t ⟨heq, -⟩
        cases heq
      rintro held t ⟨heq, rfl⟩
      obtain rfl := Except.ok.inj heq
      have hsame := q.sameLeases_refreshed b now (q.lease m.id)
      have huntouched := h.tidy.refreshed now (q.lease m.id)
      have hledger := h.untouched huntouched
      have hclear := fun id => staysBare_refreshed b now (q.lease m.id) _
        (q.lease_not_mem_placeKeys id) (hbare id)
      -- What follows the return of this text, from any store that it may leave.
      have hmore : ∀ (u : Broker) (gained : List String), q.Ledger published (bound + 1) u →
          (∀ id, u.Bare (q.lease id)) → q.SameLeases now b u →
          (q.board b).Gains gained (q.board u) → ((do
            return (if b.isMarked now (q.lease m.id) then 0 else 1)
              + (← q.requeueTexts now (.int limit) rest) : Attempt Broker ℕ)).Ends u
            fun result v => (∃ count, result = .ok count) ∧
              (q.board b).Gains (gained ++ q.recovered b now limit rest) (q.board v) := by
        intro u gained hu hubare huleases hgained
        apply (ih hu hubare hrest).bind
        · rintro fault v ⟨⟨count, heq⟩, -⟩
          cases heq
        · rintro count v ⟨-, hgains⟩
          rw [recovered_of_sameLeases huleases] at hgains
          exact (gives_pure _ v).ends ⟨⟨_, rfl⟩, hgained.trans hgains⟩
      have hgains : (q.board b).Gains [] (q.board (b.refreshed now (q.lease m.id))) :=
        huntouched.board.symm ▸ Board.Gains.refl _
      cases hheld : b.isMarked now (q.lease m.id) with
      | true =>
          have hskipped : q.recovered b now limit (text :: rest) = q.recovered b now limit rest := by
            simp [recovered, hread, Except.toOption, hheld]
          rw [hskipped]
          simp only [hheld] at hmore
          exact hmore _ [] hledger hclear hsame hgains
      | false =>
          have htaken : q.recovered b now limit (text :: rest)
              = ((m.again? limit).map Message.encode).toList ++ q.recovered b now limit rest := by
            cases hagain : m.again? limit <;>
              simp [recovered, hread, Except.toOption, hheld, hagain]
          rw [htaken]
          simp only [hheld] at hmore
          have hleases := (q.keptByPlaces_leasesStay now m.id).returnExpired
            (fun b => leasesStay_without b now m.id) (.int limit)
          have hbares := (q.keptByPlaces_staysBare now).returnExpired
            (fun b => staysBare_without b (q.lease m.id)) (.int limit)
          apply ((hledger.ends_returnExpired hp (by omega) hcopy now (.int limit)).and
            ((hledger.ends_returnExpired_ok hp hcopy (by omega) now limit).and
              ((hleases _).and (hbares _)))).bind
          · rintro fault u ⟨-, ⟨heq, -⟩, -⟩
            cases heq
          · rintro ⟨⟩ u ⟨⟨hu, -⟩, ⟨-, hreturned⟩, hstay, hstaybare⟩
            have hended := (hsame m.id).trans hheld
            exact hmore u _ hu (fun id => hstaybare _ (q.lease_not_mem_placeKeys id) (hclear id))
              (hsame.trans (hstay hended)) (hgains.trans hreturned)

/-- The return of expired messages puts their next attempts behind the pending ones, in the order
in which the claimed texts stand. -/
theorem Ledger.ends_requeueExpired_gains (h : q.Ledger published bound b)
    (hbare : ∀ id, b.Bare (q.lease id)) (hbound : bound + 1 < Message.attemptLimit) (now : Double)
    (limit : ℤ) :
    (q.requeueExpired now (.int limit)).Ends b fun _ t =>
      (q.board b).Gains (q.recovered b now limit (q.board b).processing) (q.board t) := by
  have hprocessing : q.processing ∈ q.listKeys := by simp [listKeys]
  unfold requeueExpired
  by_cases hname : Text.Whole q.name
  · apply Ends.bind_ok (h.tidy.ask_gives (h.tidy.gives_texts hname hprocessing now))
    have hlater := h.mono (Nat.le_add_right bound 1)
    exact (hlater.ends_requeueTexts_ok hname hbare h.processing hbound now limit).mono
      fun result t ht => ht.2
  · -- Nothing was ever claimed under a name that the store refuses.
    have hnone : (q.board b).processing = [] := by
      rw [List.eq_nil_iff_forall_not_mem]
      intro text htext
      obtain ⟨p, hp, -⟩ := h.processing text htext
      exact hname (h.named (List.ne_nil_of_mem hp))
    have hplace := mem_placeKeys_of_mem_listKeys hprocessing
    obtain ⟨fault, hrefused⟩ := h.tidy.gives_refused hname hplace _
    rw [hnone]
    exact Ends.bind_error hrefused (.refl _)

end Queue

end CaseWorkflow
