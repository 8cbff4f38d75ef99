import CaseWorkflow.Proofs.Queue.Scene

/-!
# No published message is lost

Each message that was published and not completed stands in one of the four places, with
the event and the time that it was published with.  A message whose attempt has more
digits than are written cannot be queued again, so the moves are fewer than it takes to
get there.
-/

namespace CaseWorkflow

namespace Queue

variable {q : Queue} {b t : Broker} {published : List Message} {bound : ℕ}

/-- Each message that was not completed has a text in the places. -/
def Standing (published : List Message) (completed : List Value) (places : Board) : Prop :=
  ∀ p ∈ published, p.id ∉ completed → ∃ text ∈ places.texts, p.owns text = true

namespace Ledger

variable {p p' : Message} {k : ℕ} {completed : List Value}

/-- What is dropped for one message is no text of another one. -/
theorem mem_texts_dropped (h : q.Ledger published bound b) (hp : p ∈ published)
    (hp' : p' ∈ published) (hne : p' ≠ p) {text? : Option String}
    (hfound : Found (q.board b).processing p text?) {text : String}
    (htext : text ∈ (q.board b).texts) (howns : p'.owns text = true) :
    text ∈ ((q.board b).dropped text?).texts := by
  cases text? with
  | none => exact htext
  | some found =>
      have hother : text ≠ found := by
        rintro rfl
        exact h.not_owns_found hp hp' hne hfound howns
      rw [Board.mem_texts] at htext ⊢
      exact htext.imp_right (.imp_left (List.mem_erase_of_ne hother).mpr)

theorem standing_dropped (h : q.Ledger published bound b) (hp : p ∈ published)
    (hstanding : Standing published completed (q.board b)) {text? : Option String}
    (hfound : Found (q.board b).processing p text?) :
    ∀ p' ∈ published, p' ≠ p → p'.id ∉ completed →
      ∃ text ∈ ((q.board b).dropped text?).texts, p'.owns text = true := by
  intro p' hp' hne hopen
  obtain ⟨text, htext, howns⟩ := hstanding p' hp' hopen
  exact ⟨text, h.mem_texts_dropped hp hp' hne hfound htext howns, howns⟩

/-- A text that is put somewhere for a message stands for it, whatever was dropped for it. -/
theorem standing_put (h : q.Ledger published bound b) (hp : p ∈ published)
    (hstanding : Standing published completed (q.board b)) {text? : Option String}
    (hfound : Found (q.board b).processing p text?) {text : String} {reason : Option String}
    (hentry : p.Entry k reason text) {places : Board}
    (hplaces : places.texts.Perm (text :: ((q.board b).dropped text?).texts)) :
    Standing published completed places := by
  intro p' hp' hopen
  by_cases hne : p' = p
  · subst hne
    exact ⟨text, hplaces.mem_iff.mpr List.mem_cons_self, hentry.owns (h.issued p' hp)⟩
  · obtain ⟨other, hmem, howns⟩ := h.standing_dropped hp hstanding hfound p' hp' hne hopen
    exact ⟨other, hplaces.mem_iff.mpr (List.mem_cons_of_mem text hmem), howns⟩

/-- A message that was published stands where it was put. -/
theorem standing_joined (h : q.Ledger (p :: published) bound t)
    (hjoined : Joined p.encode (q.board b) (q.board t))
    (hstanding : Standing published completed (q.board b)) :
    Standing (p :: published) completed (q.board t) := by
  intro p' hp' hopen
  rcases List.mem_cons.mp hp' with rfl | hp'
  · refine ⟨p'.encode, ?_, Message.Entry.first.owns (h.issued p' (by simp))⟩
    exact Board.mem_texts.mpr (.inl (hjoined.waiting.mem_iff.mpr List.mem_cons_self))
  · obtain ⟨text, htext, howns⟩ := hstanding p' hp' hopen
    refine ⟨text, ?_, howns⟩
    rw [Board.mem_texts] at htext ⊢
    rw [hjoined.waiting.mem_iff, hjoined.processing, hjoined.dead]
    exact htext.imp_left (List.mem_cons_of_mem _)

/-- A release drops a text of the message that is completed, and of no other one. -/
theorem standing_releases (h : q.Ledger published bound b) (hp : p ∈ published) {c : Message}
    (hcopy : p.Copy k c) (hstanding : Standing published completed (q.board b))
    {result : Except Fault Unit} (hreleases : Releases q published bound b p result t) :
    Standing published (c.id :: completed) (q.board t) := by
  intro p' hp' hopen
  rw [List.mem_cons, not_or] at hopen
  rcases hreleases.2 with ⟨hboard, -⟩ | ⟨text?, hfound, hboard, -⟩
  · exact hboard ▸ hstanding p' hp' hopen.2
  · have hne : p' ≠ p := by
      rintro rfl
      exact hopen.1 (hcopy.id_eq (h.issued p' hp)).symm
    exact hboard ▸ h.standing_dropped hp hstanding hfound p' hp' hne hopen.2

theorem standing_retries (h : q.Ledger published bound b) (hp : p ∈ published)
    (hsmall : k + 1 < Message.attemptLimit)
    (hstanding : Standing published completed (q.board b)) {result : Except Fault Message}
    (hretries : Retries q published bound b p k result t) :
    Standing published completed (q.board t) := by
  rcases hretries.2 with ⟨hboard, -⟩ |
    ⟨text?, hfound, ⟨hlarge, -⟩ | ⟨text, -, hentry, -, -, hboard⟩⟩
  · exact hboard ▸ hstanding
  · omega
  · rw [hboard]
    exact h.standing_put hp hstanding hfound hentry (.refl _)

theorem standing_buries (h : q.Ledger published bound b) (hp : p ∈ published)
    (hstanding : Standing published completed (q.board b)) {reason : String}
    {result : Except Fault Unit} (hburies : Buries q published bound b p k reason result t) :
    Standing published completed (q.board t) := by
  rcases hburies.2 with ⟨hboard, -⟩ | ⟨text?, text, hfound, hentry, hboard, -⟩
  · exact hboard ▸ hstanding
  · rw [hboard]
    exact h.standing_put hp hstanding hfound hentry (Board.texts_buried text _)

theorem standing_returns (h : q.Ledger published bound b) (hp : p ∈ published)
    (hsmall : k + 1 < Message.attemptLimit)
    (hstanding : Standing published completed (q.board b)) {limit : Value}
    {result : Except Fault Unit} (hreturns : Returns q published bound b p k limit result t) :
    Standing published completed (q.board t) := by
  rcases hreturns.2 with ⟨hboard, -⟩ | ⟨-, hburies⟩ | ⟨-, answer, hretries, -⟩
  · exact hboard ▸ hstanding
  · exact h.standing_buries hp hstanding hburies
  · exact h.standing_retries hp hsmall hstanding hretries

end Ledger

/-! ## Moves and runs -/

variable {s : Scene}

theorem Sound.standing_step (h : q.Sound bound s) (hbound : 1 ≤ bound)
    (hsmall : bound + 1 < Message.attemptLimit)
    (hstanding : Standing s.published s.completed (q.board s.broker)) (move : Move) :
    Standing (q.step s move).published (q.step s move).completed
      (q.board (q.step s move).broker) := by
  cases move with
  | publish event delay deduplicate =>
      have hends := h.ledger.ends_publish hbound s.now event delay deduplicate
      simp only [Queue.step]
      unfold Attempt.Ends at hends
      generalize (q.publish s.now event delay deduplicate).run s.broker = outcome at hends ⊢
      obtain ⟨result, t, notes⟩ := outcome
      rcases result with fault | _ | p
      · exact hends.2.symm ▸ hstanding
      · exact hends.2.symm ▸ hstanding
      · exact hends.1.standing_joined hends.2.2 hstanding
  | claim =>
      obtain ⟨-, hboard, -⟩ := h.ledger.ends_claim s.now
      intro p hp hopen
      obtain ⟨text, htext, howns⟩ := hstanding p hp hopen
      exact ⟨text, hboard.symm ▸ (Board.texts_claimed s.now _).mem_iff.mpr htext, howns⟩
  | complete copy =>
      simp only [Queue.step]
      split
      next => exact hstanding
      next c hc =>
        obtain ⟨p, hp, k, -, hcopy⟩ := h.copy hc
        have hends := h.ledger.ends_release hp hcopy s.now
        exact h.ledger.standing_releases hp hcopy hstanding hends
  | retry copy =>
      simp only [Queue.step]
      split
      next => exact hstanding
      next c hc =>
        obtain ⟨p, hp, k, hk, hcopy⟩ := h.copy hc
        have hlater := h.ledger.mono (Nat.le_add_right bound 1)
        have hends := hlater.ends_retry hp (by omega) hcopy s.now
        exact hlater.standing_retries hp (by omega) hstanding hends
  | bury copy reason =>
      simp only [Queue.step]
      split
      next => exact hstanding
      next c hc =>
        obtain ⟨p, hp, k, hk, hcopy⟩ := h.copy hc
        have hends := h.ledger.ends_bury hp hk hcopy s.now reason
        exact h.ledger.standing_buries hp hstanding hends
  | requeue limit =>
      have hends := h.ledger.ends_requeueExpired
        (K := fun _ => Standing s.published s.completed)
        (L := Standing s.published s.completed) s.now limit hstanding (fun _ _ hk => hk)
        (fun _ _ _ hk => hk) ?_
      · exact hends.2
      · intro text rest b t p k result hledger hk hp hle _ hreturns
        have hnext := hledger.standing_returns hp (by omega) hk hreturns
        exact ⟨hnext, fun _ => hnext⟩
  | wait now => exact hstanding

theorem standing_run (q : Queue) (now : Double) (moves : List Move)
    (hshort : moves.length + 1 < Message.attemptLimit) :
    Standing (q.run (Scene.start now) moves).published (q.run (Scene.start now) moves).completed
      (q.board (q.run (Scene.start now) moves).broker) := by
  induction moves using List.reverseRecOn with
  | nil => exact fun p hp => absurd hp (by simp [run, Scene.start])
  | append_singleton moves move ih =>
      rw [List.length_append, List.length_singleton] at hshort
      rw [run_concat]
      exact (q.sound_run now moves).standing_step (by omega) hshort (ih (by omega)) move

/-- Each message that was published stands in one of the places until it is completed, and
every text of it there carries the event and the time of the text that was written first. -/
theorem published_not_lost (q : Queue) (now : Double) (moves : List Move)
    (hshort : moves.length + 1 < Message.attemptLimit) :
    ∀ p ∈ (q.run (Scene.start now) moves).published,
      (p.id ∉ (q.run (Scene.start now) moves).completed →
        ∃ text ∈ (q.board (q.run (Scene.start now) moves).broker).texts, p.owns text = true) ∧
      ∀ text ∈ (q.board (q.run (Scene.start now) moves).broker).texts, p.owns text = true →
        Message.payload text = Message.payload p.encode := by
  intro p hp
  have hledger := (q.sound_run now moves).ledger
  refine ⟨q.standing_run now moves hshort p hp, fun text htext howns => ?_⟩
  obtain ⟨owner, howner, k, -, reason, hentry⟩ := hledger.entry_of_mem htext
  obtain rfl := (hledger.owns_iff howner hp hentry).mp howns
  exact hentry.payload_eq (hledger.issued p hp)

theorem published_not_lost_expiry :
    expiry.length + 1 < Message.attemptLimit ∧
      ∃ p ∈ (minuteQueue.run (Scene.start (Double.ofNat 0)) expiry).published,
        (p.id ∉ (minuteQueue.run (Scene.start (Double.ofNat 0)) expiry).completed →
          ∃ text ∈ (minuteQueue.board
              (minuteQueue.run (Scene.start (Double.ofNat 0)) expiry).broker).texts,
            p.owns text = true) ∧
        ∀ text ∈ (minuteQueue.board
            (minuteQueue.run (Scene.start (Double.ofNat 0)) expiry).broker).texts,
          p.owns text = true → Message.payload text = Message.payload p.encode := by
  have hshort : expiry.length + 1 < Message.attemptLimit := Message.lt_attemptLimit (by decide)
  have hpublished :
      0 < (minuteQueue.run (Scene.start (Double.ofNat 0)) expiry).published.length := by
    decide +kernel
  obtain ⟨p, hp⟩ := List.exists_mem_of_length_pos hpublished
  exact ⟨hshort, p, hp, published_not_lost minuteQueue _ expiry hshort p hp⟩

end Queue

end CaseWorkflow
