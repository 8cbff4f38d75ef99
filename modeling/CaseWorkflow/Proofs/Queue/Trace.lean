import CaseWorkflow.Proofs.Queue.Traffic

/-!
# What joins the pending messages once

Each text that joins the pending messages is one of a published message.  The first text of a
message, which a publish puts there or puts off, is written down once and never joins a second
time; every later text is that of a later attempt.
-/

namespace CaseWorkflow

open Attempt

namespace Message

variable {p c : Message} {k issued : ℕ}

/-- The next attempt of a copy is read of its text as it was. -/
theorem Copy.entry_next (h : p.Copy k c) (hk : k + 1 < attemptLimit) :
    p.Entry (k + 1) none (Message.encode { c with attempt := .int (k + 1 : ℕ) }) ∧
      decode (Message.encode { c with attempt := .int (k + 1 : ℕ) })
        = .ok { c with attempt := .int (k + 1 : ℕ) } := by
  obtain ⟨origin, horigin, -, rfl⟩ := h
  exact ⟨.again horigin hk none,
    decode_encode_again horigin (reread?_attempt hk) (reread?_reasonValue none)⟩

end Message

namespace Queue

variable {q : Queue} {b : Broker} {published : List Message} {bound bound' k : ℕ} {now : Double}
  {limit seconds : ℤ} {s s' : Scene} {w : Traffic} {texts : List String} {text : String}
  {p c : Message}

/-- Each text belongs to a published message, for its first attempt or a later one, and the first
text of each message is written down once.  What is claimed and what workers hold came from what
joined. -/
structure Traced (q : Queue) (bound : ℕ) (s : Scene) (w : Traffic) : Prop where
  joined : ∀ text ∈ w.joined, ∃ p ∈ s.published, ∃ k, 0 < k ∧ k ≤ bound ∧ p.Entry k none text
  later : ∀ entry ∈ w.later, ∃ p ∈ s.published, entry.2 = p.encode
  once : ∀ p ∈ s.published, (w.joined ++ w.later.map Prod.snd).count p.encode = 1
  claimed : (q.board s.broker).processing ⊆ w.joined
  copies : ∀ c ∈ s.copies, ∃ text ∈ w.joined, Message.decode text = .ok c

/-- The text is that of a later attempt than the first. -/
def IsAgain (published : List Message) (bound : ℕ) (text : String) : Prop :=
  ∃ p ∈ published, ∃ k, 1 < k ∧ k ≤ bound ∧ p.Entry k none text

/-- The text of a later attempt is no first text. -/
theorem Ledger.ne_encode_of_again (h : q.Ledger published bound b)
    (hagain : IsAgain published bound' text) (hp : p ∈ published) : text ≠ p.encode := by
  obtain ⟨p', hp', k, hk, -, hentry⟩ := hagain
  by_cases hid : p'.id = p.id
  · obtain rfl := h.eq_of_id hp' hp hid
    rintro rfl
    have hfirst := hentry.attempt_eq .first (h.issued p' hp)
    omega
  · exact h.ne_encode hp hp' hid hentry

namespace Traced

theorem start (q : Queue) (now : Double) : q.Traced 1 (Scene.start now) ⟨[], [], []⟩ where
  joined := by simp
  later := by simp
  once := by simp [Scene.start]
  claimed := by simp [board, Scene.start, Broker.empty, Broker.list]
  copies := by simp [Scene.start]

theorem entry (h : q.Traced bound s w) (htext : text ∈ w.joined ++ w.later.map Prod.snd) :
    ∃ p ∈ s.published, ∃ k, p.Entry k none text := by
  rcases List.mem_append.mp htext with htext | htext
  · obtain ⟨p, hp, k, -, -, hentry⟩ := h.joined text htext
    exact ⟨p, hp, k, hentry⟩
  · obtain ⟨entry, hentry, rfl⟩ := List.mem_map.mp htext
    obtain ⟨p, hp, heq⟩ := h.later entry hentry
    exact ⟨p, hp, 1, heq ▸ .first⟩

theorem copy (h : q.Traced bound s w) (hledger : q.Ledger s.published bound' s.broker)
    (hc : c ∈ s.copies) : ∃ p ∈ s.published, ∃ k, 0 < k ∧ k ≤ bound ∧ p.Copy k c := by
  obtain ⟨text, htext, hread⟩ := h.copies c hc
  obtain ⟨p, hp, k, hpos, hk, hentry⟩ := h.joined text htext
  exact ⟨p, hp, k, hpos, hk, hentry.copy (hledger.issued p hp) hread⟩

/-- What is put back are texts of later attempts. -/
theorem again_of_recovered (h : q.Traced bound s w)
    (hledger : q.Ledger s.published bound' s.broker) (hbound : bound + 1 < Message.attemptLimit)
    (htext : text ∈ q.recovered s.broker now limit (q.board s.broker).processing) :
    IsAgain s.published (bound + 1) text := by
  obtain ⟨claimed, hclaimed, hagain⟩ := List.mem_filterMap.mp htext
  obtain ⟨m, hread, hagain⟩ := Option.bind_eq_some_iff.mp hagain
  obtain ⟨p, hp, k, hpos, hk, hentry⟩ := h.joined claimed (h.claimed hclaimed)
  have hcopy := hentry.copy (hledger.issued p hp) (toOption_eq_some_iff.mp hread)
  have hattempt := hentry.attempt_of_read (hledger.issued p hp) (toOption_eq_some_iff.mp hread)
  split at hagain
  · cases hagain
  obtain ⟨next, hnext, rfl⟩ := Option.map_eq_some_iff.mp hagain
  simp only [Message.again?, hattempt] at hnext
  split at hnext
  · cases hnext
  obtain rfl := Option.some.inj hnext
  exact ⟨p, hp, k + 1, by omega, by omega, (hcopy.entry_next (by omega)).1⟩

/-- Texts of later attempts join, and with them copies that are read of them. -/
theorem joins (h : q.Traced bound s w) (hledger : q.Ledger s.published bound' s.broker)
    (hpublished : s'.published = s.published)
    (htexts : ∀ text ∈ texts, IsAgain s.published (bound + 1) text)
    (hclaimed : (q.board s'.broker).processing ⊆ (q.board s.broker).processing)
    (hcopies : ∀ c ∈ s'.copies, c ∈ s.copies ∨ ∃ text ∈ texts, Message.decode text = .ok c) :
    q.Traced (bound + 1) s' { w with joined := w.joined ++ texts } where
  joined := by
    intro text htext
    rw [hpublished]
    rcases List.mem_append.mp htext with htext | htext
    · obtain ⟨p, hp, k, hpos, hk, hentry⟩ := h.joined text htext
      exact ⟨p, hp, k, hpos, by omega, hentry⟩
    · obtain ⟨p, hp, k, hpos, hk, hentry⟩ := htexts text htext
      exact ⟨p, hp, k, by omega, hk, hentry⟩
  later := hpublished ▸ h.later
  once := by
    intro p hp
    rw [hpublished] at hp
    have hnone : texts.count p.encode = 0 := List.count_eq_zero.mpr fun hmem =>
      hledger.ne_encode_of_again (htexts _ hmem) hp rfl
    have hbefore := h.once p hp
    rw [List.count_append] at hbefore ⊢
    rw [List.count_append, hnone]
    exact hbefore
  claimed := fun text htext => List.mem_append_left _ (h.claimed (hclaimed htext))
  copies := by
    intro c hc
    rcases hcopies c hc with hc | ⟨text, htext, hread⟩
    · obtain ⟨text, htext, hread⟩ := h.copies c hc
      exact ⟨text, List.mem_append_left _ htext, hread⟩
    · exact ⟨text, List.mem_append_right _ htext, hread⟩

/-- Nothing joins. -/
theorem stays (h : q.Traced bound s w) (hledger : q.Ledger s.published bound' s.broker)
    (hpublished : s'.published = s.published)
    (hclaimed : (q.board s'.broker).processing ⊆ (q.board s.broker).processing)
    (hcopies : s'.copies = s.copies) : q.Traced (bound + 1) s' w := by
  have hnone : ∀ text ∈ ([] : List String), IsAgain s.published (bound + 1) text := by simp
  simpa using h.joins hledger hpublished hnone hclaimed fun c hc => .inl (hcopies ▸ hc)

/-- The first text of a message that is published joins, at once or later. -/
theorem publishes (h : q.Traced bound s w) (hpos : 1 ≤ bound)
    (hledger : q.Ledger (p :: s.published) bound' s'.broker)
    (hfresh : ∀ p' ∈ s.published, p'.id ≠ p.id) (hpublished : s'.published = p :: s.published)
    (hclaimed : (q.board s'.broker).processing = (q.board s.broker).processing)
    (hcopies : s'.copies = s.copies) {w' : Traffic}
    (hw : w' = { w with joined := w.joined ++ [p.encode] } ∨
      ∃ due, w' = { w with later := w.later ++ [(due, p.encode)] }) :
    q.Traced (bound + 1) s' w' := by
  have hnew : p ∈ p :: s.published := List.mem_cons_self
  have hold : ∀ p' ∈ s.published, p' ∈ p :: s.published := fun p' => List.mem_cons_of_mem p
  have hsubset : w.joined ⊆ w'.joined := by
    rcases hw with rfl | ⟨due, rfl⟩
    · exact List.subset_append_left _ _
    · exact List.Subset.refl _
  have hperm : (w'.joined ++ w'.later.map Prod.snd).Perm
      (p.encode :: (w.joined ++ w.later.map Prod.snd)) := by
    rcases hw with rfl | ⟨due, rfl⟩
    · simp
    · simp [← List.append_assoc]
  constructor
  · intro text htext
    have hcases : text ∈ w.joined ∨ text = p.encode := by
      rcases hw with rfl | ⟨due, rfl⟩
      · simpa using htext
      · exact .inl htext
    rw [hpublished]
    rcases hcases with htext | rfl
    · obtain ⟨p', hp', k, hk, hle, hentry⟩ := h.joined text htext
      exact ⟨p', hold p' hp', k, hk, by omega, hentry⟩
    · exact ⟨p, hnew, 1, by omega, by omega, .first⟩
  · intro entry hentry
    have hcases : entry ∈ w.later ∨ entry.2 = p.encode := by
      rcases hw with rfl | ⟨due, rfl⟩
      · exact .inl hentry
      · rcases List.mem_append.mp hentry with hentry | hentry
        · exact .inl hentry
        · exact .inr (by rw [List.mem_singleton.mp hentry])
    rw [hpublished]
    rcases hcases with hentry | heq
    · obtain ⟨p', hp', heq⟩ := h.later entry hentry
      exact ⟨p', hold p' hp', heq⟩
    · exact ⟨p, hnew, heq⟩
  · intro p' hp'
    rw [hpublished] at hp'
    rw [hperm.count_eq]
    rcases List.mem_cons.mp hp' with rfl | hp'
    · have hnone : (w.joined ++ w.later.map Prod.snd).count p'.encode = 0 := by
        rw [List.count_eq_zero]
        intro hmem
        obtain ⟨owner, howner, k, hentry⟩ := h.entry hmem
        exact hledger.ne_encode hnew (hold owner howner) (hfresh owner howner) hentry rfl
      rw [List.count_cons_self, hnone]
    · have hne : p.encode ≠ p'.encode :=
        hledger.ne_encode (hold p' hp') hnew (hfresh p' hp').symm .first
      rw [List.count_cons_of_ne hne]
      exact h.once p' hp'
  · rw [hclaimed]
    exact List.Subset.trans h.claimed hsubset
  · intro c hc
    rw [hcopies] at hc
    obtain ⟨text, htext, hread⟩ := h.copies c hc
    exact ⟨text, hsubset htext, hread⟩

/-- What is due joins, and what is handed out joined before. -/
theorem claims (h : q.Traced bound s w) (hpos : 1 ≤ bound) (haccounts : q.Accounts s w)
    (hledger : q.Ledger s.published bound' s.broker) (hlease : q.leaseSeconds = .int seconds)
    (htimely : Timely seconds s.now) :
    q.Traced (bound + 1) (q.step s .claim) (q.follow s w .claim) := by
  obtain ⟨-, stop, hstop⟩ := htimely
  have hboard := (hledger.ends_claim s.now).2.1
  have hnext := hledger.ends_claim_next hlease hstop
  have hmem : ∀ text, (q.board s.broker).next? s.now = some text →
      text ∈ w.joined ++ w.due s.now := by
    intro text hsome
    obtain ⟨taken, -, hjoined⟩ := haccounts.split
    rw [haccounts.joined_append_due s.now hjoined]
    exact List.mem_append_right _ (List.mem_reverse.mpr (List.mem_of_getLast? hsome))
  -- What is due moves from the later texts to those that joined, and none is lost or doubled.
  have hperm : (w.joined ++ w.due s.now
      ++ (w.later.filter (!·.1.le s.now)).map Prod.snd).Perm
        (w.joined ++ w.later.map Prod.snd) := by
    rw [List.append_assoc]
    apply List.Perm.append_left
    rw [Traffic.due, ← List.map_append]
    exact (((Schedule.perm_inOrder _).append_right _).trans
      (List.filter_append_perm _ _)).map Prod.snd
  simp only [Queue.step, follow]
  unfold Ends at hnext
  generalize (q.claim s.now).run s.broker = outcome at hboard hnext ⊢
  obtain ⟨result, t, notes⟩ := outcome
  dsimp only at hboard hnext ⊢
  constructor
  · intro text htext
    rcases List.mem_append.mp htext with htext | htext
    · obtain ⟨p, hp, k, hk, hle, hentry⟩ := h.joined text htext
      exact ⟨p, hp, k, hk, by omega, hentry⟩
    · obtain ⟨entry, hentry, rfl⟩ := List.mem_map.mp htext
      have hlater := List.mem_of_mem_filter ((Schedule.perm_inOrder _).mem_iff.mp hentry)
      obtain ⟨p, hp, heq⟩ := h.later entry hlater
      exact ⟨p, hp, 1, by omega, by omega, heq ▸ .first⟩
  · exact fun entry hentry => h.later entry (List.mem_of_mem_filter hentry)
  · intro p hp
    rw [hperm.count_eq]
    exact h.once p hp
  · rw [hboard]
    cases hsome : (q.board s.broker).next? s.now with
    | none =>
        rw [(Board.claimed_of_no_next hsome).2.1]
        exact List.subset_append_of_subset_left _ h.claimed
    | some text =>
        rw [(Board.claimed_of_next hsome).2.1]
        exact List.cons_subset.mpr ⟨hmem text hsome, List.subset_append_of_subset_left _ h.claimed⟩
  · intro c hc
    rcases List.mem_append.mp hc with hc | hc
    · obtain ⟨text, htext, hread⟩ := h.copies c hc
      exact ⟨text, List.mem_append_left _ htext, hread⟩
    · obtain ⟨answer, hanswer, hmessage⟩ := Option.bind_eq_some_iff.mp (Option.mem_toList.mp hc)
      obtain rfl := eq_message_of_message? hmessage
      obtain rfl := toOption_eq_some_iff.mp hanswer
      cases hsome : (q.board s.broker).next? s.now with
      | none =>
          rw [hsome] at hnext
          dsimp only at hnext
          split at hnext
          · cases hnext
          · obtain ⟨fault, heq⟩ := hnext
            cases heq
      | some text =>
          rw [hsome] at hnext
          obtain ⟨m, hread, heq⟩ := hnext
          obtain rfl := Claim.message.inj (Except.ok.inj heq)
          exact ⟨text, hmem text hsome, hread⟩

theorem step (h : q.Traced bound s w) (haccounts : q.Accounts s w) (hsound : q.Sound bound s)
    (hpos : 1 ≤ bound) (hbound : bound + 1 < Message.attemptLimit)
    (hbare : ∀ id, s.broker.Bare (q.lease id)) (hlease : q.leaseSeconds = .int seconds)
    (htimely : Timely seconds s.now) {move : Move} (hmove : move.Regular seconds) :
    q.Traced (bound + 1) (q.step s move) (q.follow s w move) := by
  have hledger := hsound.ledger
  cases move with
  | publish event delay deduplicate =>
      have hends := hledger.ends_publish hpos s.now event delay deduplicate
      simp only [Queue.step, follow, posted?]
      unfold Ends at hends
      generalize (q.publish s.now event delay deduplicate).run s.broker = outcome at hends ⊢
      obtain ⟨result, t, notes⟩ := outcome
      rcases result with fault | _ | p
      · exact h.stays hledger rfl (hends.2 ▸ List.Subset.refl _) rfl
      · exact h.stays hledger rfl (hends.2 ▸ List.Subset.refl _) rfl
      obtain ⟨hlater, hfresh, hjoined⟩ := hends
      refine h.publishes hpos hlater hfresh ?_ hjoined.processing ?_ ?_
      · rfl
      · rfl
      cases hdue : dueAt? s.now delay with
      | none => exact .inl (by simp [Except.toOption])
      | some due => exact .inr ⟨due, by simp [Except.toOption]⟩
  | claim => exact h.claims hpos haccounts hledger hlease htimely
  | complete copy =>
      simp only [Queue.step, follow]
      split
      next => exact h.stays hledger rfl (List.Subset.refl _) rfl
      next c hc =>
        obtain ⟨p, hp, k, -, hcopy⟩ := hsound.copy hc
        obtain ⟨-, text?, hdropped⟩ := hledger.ends_release_ok hp hcopy s.now
        refine h.stays hledger rfl ?_ rfl
        exact hdropped.board.symm ▸ Board.dropped_processing_subset text? _
  | retry copy =>
      simp only [Queue.step, follow]
      cases hc : s.copies[copy]? with
      | none => exact h.stays hledger rfl (List.Subset.refl _) rfl
      | some c =>
          obtain ⟨p, hp, k, hk, hle, hcopy⟩ := h.copy hledger (List.mem_of_getElem? hc)
          obtain ⟨next, hnext, hresult, hgains⟩ := hledger.ends_retry_ok hp hcopy (by omega) s.now
          obtain rfl := Except.ok.inj (hcopy.nextAttempt.symm.trans hnext)
          obtain ⟨hentry, hread⟩ := hcopy.entry_next (by omega)
          dsimp only
          rw [hresult]
          refine h.joins hledger ?_ ?_ hgains.processing ?_
          · rfl
          · intro text htext
            obtain rfl := List.mem_singleton.mp htext
            exact ⟨p, hp, k + 1, by omega, by omega, hentry⟩
          · intro other hother
            rcases List.mem_append.mp hother with hother | hother
            · exact .inl hother
            · obtain rfl := List.mem_singleton.mp hother
              exact .inr ⟨_, List.mem_singleton_self _, hread⟩
  | bury copy reason =>
      simp only [Queue.step, follow]
      split
      next => exact h.stays hledger rfl (List.Subset.refl _) rfl
      next c hc =>
        obtain ⟨p, hp, k, -, hcopy⟩ := hsound.copy hc
        exact h.stays hledger rfl (hledger.ends_bury_ok hp hcopy s.now reason).2.processing rfl
  | requeue limit =>
      obtain ⟨limit, rfl⟩ := hmove
      have hgains := hledger.ends_requeueExpired_gains hbare hbound s.now limit
      exact h.joins hledger rfl (fun text => h.again_of_recovered hledger hbound)
        hgains.processing fun c hc => .inl hc
  | wait now => exact h.stays hledger rfl (List.Subset.refl _) rfl

end Traced

/-- Along a run each first text is written down once. -/
theorem traced_run (hlease : q.leaseSeconds = .int seconds) {start : Double}
    (hstart : Timely seconds start) {moves : List Move}
    (hmoves : ∀ move ∈ moves, move.Regular seconds)
    (hshort : moves.length + 1 < Message.attemptLimit) :
    q.Traced (moves.length + 1) (q.run (Scene.start start) moves) (q.traffic start moves) := by
  induction moves using List.reverseRecOn with
  | nil => exact Traced.start q start
  | append_singleton moves move ih =>
      rw [List.length_append, List.length_singleton] at hshort ⊢
      have hbefore := fun other hother => hmoves other (List.mem_append_left [move] hother)
      have hmove := hmoves move (List.mem_append_right _ List.mem_cons_self)
      have hbare := fun id => q.bare_run start moves (q.lease_not_mem_placeKeys id)
      have haccounts := accounts_run hlease hstart hbefore (by omega)
      rw [run_concat, traffic_append]
      exact (ih hbefore (by omega)).step haccounts (q.sound_run start moves) (by omega) hshort
        hbare hlease (timely_run hstart hbefore) hmove

end Queue

end CaseWorkflow
