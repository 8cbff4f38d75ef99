import CaseWorkflow.Proofs.Queue.Scene
import CaseWorkflow.Proofs.Queue.View

/-!
# When a message has two texts

A text of a message is moved by a claim and replaced by a settlement, so that a message has
at most one text as long as each copy is settled while its message is claimed.  A copy that
is settled when its message is already back in the queue adds a second text: what is put back
or given up is added whether or not a claimed text was dropped for it.
-/

namespace CaseWorkflow

namespace Queue

variable {q : Queue} {b t : Broker} {published : List Message} {bound : ℕ}

namespace Ledger

variable {p p' : Message} {k : ℕ} {text : String}

/-- What is found for a message and dropped is one text of it, if any of it is claimed. -/
theorem countP_dropped_same {places : Board} {text? : Option String}
    (hfound : Found places.processing p text?) :
    (places.dropped text?).processing.countP p.owns = places.processing.countP p.owns - 1 := by
  cases text? with
  | none =>
      have hnone : places.processing.countP p.owns = 0 := by
        rw [List.countP_eq_zero]
        exact fun text htext => Bool.eq_false_iff.mp (hfound text htext)
      change places.processing.countP p.owns = _
      rw [hnone]
  | some text =>
      change (places.processing.erase text).countP p.owns = _
      rw [List.countP_erase, if_pos ⟨hfound.1, hfound.2⟩]

theorem countP_dropped_other (h : q.Ledger published bound b) (hp : p ∈ published)
    (hp' : p' ∈ published) (hne : p' ≠ p) {text? : Option String}
    (hfound : Found (q.board b).processing p text?) :
    ((q.board b).dropped text?).processing.countP p'.owns
      = (q.board b).processing.countP p'.owns := by
  rw [List.countP_eq_length_filter, List.countP_eq_length_filter]
  exact (h.view_dropped_other hp hp' hne hfound).processing.length_eq

/-- A message that is published has one text, and the others have those of before. -/
theorem copies_joined (h : q.Ledger published bound b) (hlater : q.Ledger (p :: published) bound t)
    (hfresh : ∀ p' ∈ published, p'.id ≠ p.id)
    (hjoined : Joined p.encode (q.board b) (q.board t)) :
    (q.board t).copies p = 1 ∧ ∀ p' ∈ published, (q.board t).copies p' = (q.board b).copies p' := by
  obtain ⟨hview, hothers⟩ := h.view_joined hlater hfresh hjoined
  refine ⟨?_, fun p' hp' => Board.copies_of_alike (hothers p' hp')⟩
  rw [Board.copies_eq_length, hview]
  rfl

end Ledger

/-! ## Single texts -/

/-- No message has two texts. -/
def Single (published : List Message) (places : Board) : Prop :=
  ∀ p ∈ published, places.copies p ≤ 1

/-- A text of the message stands elsewhere than among the claimed ones. -/
def Elsewhere (p : Message) (places : Board) : Prop :=
  ∃ text ∈ places.waiting ++ places.dead, p.owns text = true

theorem not_elsewhere_iff {p : Message} {places : Board} :
    ¬Elsewhere p places ↔ places.waiting.countP p.owns = 0 ∧ places.dead.countP p.owns = 0 := by
  rw [Elsewhere, ← List.countP_pos_iff, List.countP_append]
  omega

namespace Ledger

variable {p p' : Message} {k : ℕ} {text : String}

theorem single_dropped (h : q.Ledger published bound b) (hp : p ∈ published)
    (hsingle : Single published (q.board b)) {text? : Option String}
    (hfound : Found (q.board b).processing p text?) :
    Single published ((q.board b).dropped text?) := by
  intro p' hp'
  have hbefore := hsingle p' hp'
  rw [Board.copies_eq] at hbefore ⊢
  rw [Board.dropped_waiting, Board.dropped_dead]
  by_cases hne : p' = p
  · subst hne
    rw [countP_dropped_same hfound]
    omega
  · rw [h.countP_dropped_other hp hp' hne hfound]
    exact hbefore

/-- A text that is put somewhere for a message is its only one, if what was dropped for it was
its only one. -/
theorem single_put_iff (h : q.Ledger published bound b) (hp : p ∈ published)
    (hsingle : Single published (q.board b)) {text? : Option String}
    (hfound : Found (q.board b).processing p text?) {reason : Option String}
    (hentry : p.Entry k reason text) {places : Board}
    (hplaces : places.texts.Perm (text :: ((q.board b).dropped text?).texts)) :
    Single published places ↔ ¬Elsewhere p (q.board b) := by
  have hput : ∀ p' : Message, places.copies p'
      = (q.board b).waiting.countP p'.owns
        + ((q.board b).dropped text?).processing.countP p'.owns
        + (q.board b).dead.countP p'.owns + if p'.owns text then 1 else 0 := by
    intro p'
    rw [Board.copies, hplaces.countP_eq, List.countP_cons, ← Board.copies, Board.copies_eq,
      Board.dropped_waiting, Board.dropped_dead]
  have hsame := hput p
  rw [countP_dropped_same hfound, if_pos (hentry.owns (h.issued p hp))] at hsame
  have hbefore := hsingle p hp
  rw [Board.copies_eq] at hbefore
  rw [not_elsewhere_iff]
  constructor
  · intro hafter
    have hafter := hafter p hp
    omega
  · intro hnone p' hp'
    by_cases hne : p' = p
    · subst hne
      omega
    · have hnot : ¬p'.owns text = true := (h.owns_iff hp hp' hentry).not.mpr hne
      have hother := hsingle p' hp'
      rw [Board.copies_eq] at hother
      rw [hput, h.countP_dropped_other hp hp' hne hfound, if_neg hnot]
      exact hother

theorem single_joined (h : q.Ledger published bound b) (hlater : q.Ledger (p :: published) bound t)
    (hfresh : ∀ p' ∈ published, p'.id ≠ p.id)
    (hjoined : Joined p.encode (q.board b) (q.board t))
    (hsingle : Single published (q.board b)) : Single (p :: published) (q.board t) := by
  obtain ⟨hnew, hold⟩ := h.copies_joined hlater hfresh hjoined
  intro p' hp'
  rcases List.mem_cons.mp hp' with rfl | hp'
  · exact hnew.le
  · exact (hold p' hp').le.trans (hsingle p' hp')

theorem single_releases (h : q.Ledger published bound b) (hp : p ∈ published)
    (hsingle : Single published (q.board b)) {result : Except Fault Unit}
    (hreleases : Releases q published bound b p result t) : Single published (q.board t) := by
  rcases hreleases.2 with ⟨hboard, -⟩ | ⟨text?, hfound, hboard, -⟩
  · exact hboard ▸ hsingle
  · exact hboard ▸ h.single_dropped hp hsingle hfound

/-- A retry that goes through adds a second text if its message is elsewhere already. -/
theorem single_retries_iff (h : q.Ledger published bound b) (hp : p ∈ published)
    (hsingle : Single published (q.board b)) {result : Except Fault Message}
    (hretries : Retries q published bound b p k result t) :
    Single published (q.board t) ↔ ¬((∃ next, result = .ok next) ∧ Elsewhere p (q.board b)) := by
  rcases hretries.2 with ⟨hboard, fault, rfl⟩ |
    ⟨text?, hfound, ⟨-, hboard, fault, rfl⟩ | ⟨text, next, hentry, -, rfl, hboard⟩⟩
  · exact iff_of_true (hboard ▸ hsingle) (by simp)
  · exact iff_of_true (hboard ▸ h.single_dropped hp hsingle hfound) (by simp)
  · rw [hboard, h.single_put_iff hp hsingle hfound hentry (.refl _)]
    simp

/-- Giving a message up adds a second text if the message is elsewhere already. -/
theorem single_buries_iff (h : q.Ledger published bound b) (hp : p ∈ published)
    (hsingle : Single published (q.board b)) {reason : String} {result : Except Fault Unit}
    (hburies : Buries q published bound b p k reason result t) :
    Single published (q.board t) ↔ ¬(result = .ok () ∧ Elsewhere p (q.board b)) := by
  rcases hburies.2 with ⟨hboard, fault, rfl⟩ | ⟨text?, text, hfound, hentry, hboard, rfl⟩
  · exact iff_of_true (hboard ▸ hsingle) (by simp)
  · rw [hboard, h.single_put_iff hp hsingle hfound hentry (Board.texts_buried text _)]
    simp

/-! ### The return of expired messages -/

/-- The texts that are still to be gone through are claimed, each as often as it is listed. -/
def Listed (published : List Message) (texts : List String) (places : Board) : Prop :=
  Single published places ∧
    ∀ p ∈ published, texts.countP p.owns ≤ places.processing.countP p.owns

theorem processing_of_returns {limit : Value}
    (hreturns : Returns q published bound b p k limit (.ok ()) t) :
    ∃ text?, Found (q.board b).processing p text? ∧
      (q.board t).processing = ((q.board b).dropped text?).processing := by
  rcases hreturns.2 with ⟨-, fault, hfault⟩ | ⟨-, -, hburies⟩ | ⟨-, answer, ⟨-, hretries⟩, hanswer⟩
  · cases hfault
  · rcases hburies with ⟨-, fault, hfault⟩ | ⟨text?, text, hfound, -, hboard, -⟩
    · cases hfault
    · exact ⟨text?, hfound, hboard ▸ rfl⟩
  · rcases hretries with ⟨-, fault, rfl⟩ |
      ⟨text?, hfound, ⟨-, -, fault, rfl⟩ | ⟨text, next, -, -, -, hboard⟩⟩
    · cases hanswer
    · cases hanswer
    · exact ⟨text?, hfound, hboard ▸ rfl⟩

/-- What is returned has its text among the claimed ones, so that it gets no second one. -/
theorem listed_returns (h : q.Ledger published bound b) (hp : p ∈ published)
    {rest : List String} (hlisted : Listed published (text :: rest) (q.board b))
    (hentry : p.Entry k none text) {limit : Value} {result : Except Fault Unit}
    (hreturns : Returns q published bound b p k limit result t) :
    Single published (q.board t) ∧
      (result = .ok () → Listed published rest (q.board t)) := by
  obtain ⟨hsingle, hclaimed⟩ := hlisted
  have hcount := hclaimed p hp
  rw [List.countP_cons, if_pos (hentry.owns (h.issued p hp))] at hcount
  have hone := hsingle p hp
  rw [Board.copies_eq] at hone
  have hthere : ¬Elsewhere p (q.board b) := not_elsewhere_iff.mpr (by omega)
  have hafter : Single published (q.board t) := by
    rcases hreturns.2 with ⟨hboard, -⟩ | ⟨-, hburies⟩ | ⟨-, answer, hretries, -⟩
    · exact hboard ▸ hsingle
    · exact (h.single_buries_iff hp hsingle hburies).mpr fun hlate => hthere hlate.2
    · exact (h.single_retries_iff hp hsingle hretries).mpr fun hlate => hthere hlate.2
  refine ⟨hafter, ?_⟩
  rintro rfl
  obtain ⟨text?, hfound, hprocessing⟩ := processing_of_returns hreturns
  refine ⟨hafter, fun p' hp' => ?_⟩
  rw [hprocessing]
  by_cases hne : p' = p
  · subst hne
    omega
  · rw [h.countP_dropped_other hp hp' hne hfound]
    exact (List.sublist_cons_self text rest).countP_le.trans (hclaimed p' hp')

end Ledger

/-! ## Moves and runs -/

variable {s : Scene}

/-- A copy is put back or given up, and goes there, while its message is elsewhere than among
the claimed ones. -/
def Late (q : Queue) (s : Scene) : Move → Prop
  | .retry copy =>
    ∃ c, s.copies[copy]? = some c ∧
      (∃ next, ((q.retry s.now c).run s.broker).result = .ok next) ∧
      ∃ p ∈ s.published, p.id = c.id ∧ Elsewhere p (q.board s.broker)
  | .bury copy reason =>
    ∃ c, s.copies[copy]? = some c ∧
      ((q.bury s.now c (.text reason)).run s.broker).result = .ok () ∧
      ∃ p ∈ s.published, p.id = c.id ∧ Elsewhere p (q.board s.broker)
  | .publish .. | .claim | .complete _ | .requeue _ | .wait _ => False

/-- Whether a settlement is late is seen from the message its copy is of. -/
theorem Sound.late_iff (h : q.Sound bound s) {copy k : ℕ} {c p : Message}
    (hc : s.copies[copy]? = some c) (hp : p ∈ s.published) (hcopy : p.Copy k c)
    (P : Message → Prop) :
    (∃ c, s.copies[copy]? = some c ∧ P c ∧
        ∃ p ∈ s.published, p.id = c.id ∧ Elsewhere p (q.board s.broker)) ↔
      P c ∧ Elsewhere p (q.board s.broker) := by
  have hid := hcopy.id_eq (h.ledger.issued p hp)
  constructor
  · intro ⟨c', hc', hthrough, p', hp', hid', helsewhere⟩
    obtain rfl := Option.some.inj (hc.symm.trans hc')
    obtain rfl := h.ledger.eq_of_id hp' hp (hid'.trans hid)
    exact ⟨hthrough, helsewhere⟩
  · intro ⟨hthrough, helsewhere⟩
    exact ⟨c, hc, hthrough, p, hp, hid.symm, helsewhere⟩

/-- After a move each message has at most one text, unless the move was late. -/
theorem Sound.single_step_iff (h : q.Sound bound s) (hbound : 1 ≤ bound)
    (hsingle : Single s.published (q.board s.broker)) (move : Move) :
    Single (q.step s move).published (q.board (q.step s move).broker) ↔ ¬q.Late s move := by
  cases move with
  | publish event delay deduplicate =>
      refine iff_of_true ?_ (by simp [Late])
      have hends := h.ledger.ends_publish hbound s.now event delay deduplicate
      simp only [Queue.step]
      unfold Attempt.Ends at hends
      generalize (q.publish s.now event delay deduplicate).run s.broker = outcome at hends ⊢
      obtain ⟨result, t, notes⟩ := outcome
      rcases result with fault | _ | p
      · exact hends.2.symm ▸ hsingle
      · exact hends.2.symm ▸ hsingle
      · exact h.ledger.single_joined hends.1 hends.2.1 hends.2.2 hsingle
  | claim =>
      refine iff_of_true ?_ (by simp [Late])
      obtain ⟨-, hboard, -⟩ := h.ledger.ends_claim s.now
      intro p hp
      have hcopies : (q.board (q.step s .claim).broker).copies p = (q.board s.broker).copies p :=
        hboard ▸ (Board.texts_claimed s.now (q.board s.broker)).countP_eq p.owns
      exact hcopies.le.trans (hsingle p hp)
  | complete copy =>
      refine iff_of_true ?_ (by simp [Late])
      simp only [Queue.step]
      split
      next => exact hsingle
      next c hc =>
        obtain ⟨p, hp, k, -, hcopy⟩ := h.copy hc
        exact h.ledger.single_releases hp hsingle (h.ledger.ends_release hp hcopy s.now)
  | retry copy =>
      simp only [Queue.step, Late]
      split
      next hnone => exact iff_of_true hsingle (by simp [hnone])
      next c hc =>
        obtain ⟨p, hp, k, hk, hcopy⟩ := h.copy hc
        have hlater := h.ledger.mono (Nat.le_add_right bound 1)
        have hends := hlater.ends_retry hp (by omega) hcopy s.now
        apply (hlater.single_retries_iff hp hsingle hends).trans
        rw [h.late_iff hc hp hcopy fun c =>
          ∃ next, ((q.retry s.now c).run s.broker).result = .ok next]
  | bury copy reason =>
      simp only [Queue.step, Late]
      split
      next hnone => exact iff_of_true hsingle (by simp [hnone])
      next c hc =>
        obtain ⟨p, hp, k, hk, hcopy⟩ := h.copy hc
        have hends := h.ledger.ends_bury hp hk hcopy s.now reason
        apply (h.ledger.single_buries_iff hp hsingle hends).trans
        rw [h.late_iff hc hp hcopy fun c =>
          ((q.bury s.now c (.text reason)).run s.broker).result = .ok ()]
  | requeue limit =>
      refine iff_of_true ?_ (by simp [Late])
      have hends := h.ledger.ends_requeueExpired
        (K := Ledger.Listed s.published) (L := Single s.published) s.now limit
        ⟨hsingle, fun _ _ => le_rfl⟩ (fun _ _ hk => hk.1) ?_ ?_
      · exact hends.2
      · intro text rest places hk
        exact ⟨hk.1, fun p hp => (List.sublist_cons_self text rest).countP_le.trans (hk.2 p hp)⟩
      · intro text rest b t p k result hledger hk hp hle hentry hreturns
        exact hledger.listed_returns hp hk hentry hreturns
  | wait now => exact iff_of_true hsingle (by simp [Late])

/-- Along a run each message has at most one text at every moment, exactly if no copy is put
back or given up late. -/
theorem single_iff_not_late (q : Queue) (now : Double) (moves : List Move) :
    (∀ before, before <+: moves →
        ∀ p ∈ (q.run (Scene.start now) before).published,
          (q.board (q.run (Scene.start now) before).broker).copies p ≤ 1) ↔
      ∀ before move, before ++ [move] <+: moves →
        ¬q.Late (q.run (Scene.start now) before) move := by
  constructor
  · intro hsingle before move hprefix
    have hbefore := hsingle before ((List.prefix_append before [move]).trans hprefix)
    have hafter := hsingle (before ++ [move]) hprefix
    rw [run_concat] at hafter
    exact ((q.sound_run now before).single_step_iff (by omega) hbefore move).mp hafter
  · intro hnever before
    induction before using List.reverseRecOn with
    | nil => exact fun _ p hp => absurd hp (by simp [run, Scene.start])
    | append_singleton before move ih =>
        intro hprefix
        have hbefore := ih ((List.prefix_append before [move]).trans hprefix)
        rw [run_concat]
        exact ((q.sound_run now before).single_step_iff (by omega) hbefore move).mpr
          (hnever before move hprefix)

/-- The worker of an expired message, which was returned already, puts it back once more. -/
def lateRetry : List Move := expiry ++ [.retry 0]

/-- The late retry leaves two texts of its message to be delivered. -/
theorem exists_two_copies_late_retry :
    ∃ p ∈ (minuteQueue.run (Scene.start (Double.ofNat 0)) lateRetry).published,
      (minuteQueue.board (minuteQueue.run (Scene.start (Double.ofNat 0)) lateRetry).broker).copies p
        = 2 := by
  decide +kernel

end Queue

end CaseWorkflow
