import CaseWorkflow.Proofs.Queue.Guard
import CaseWorkflow.Proofs.Queue.MarkEnd

/-!
# A message that passes through a queue

A message that can be written and is not put off joins the pending ones.  A claim gives it out
if its lease can be set, and when it is completed its text is gone.
-/

namespace CaseWorkflow

theorem Message.decode_empty (m : Message) : Message.decode "" ≠ .ok m := by
  intro h
  cases h

namespace Queue

variable {q : Queue} {b : Broker} {now stop : Double} {m : Message} {text : String}

theorem prepare_now (hwrite : m.write = .ok text) :
    prepare now m (.int 0) = .ok (text, none) := by
  have hdelay : putOff? (.int 0) = .ok none := putOff?_int 0
  rw [prepare, hdelay, Json.ok_bind, hwrite]
  rfl

/-- By a clock that shows a moment, a guard can be set where nothing stands. -/
theorem exists_admits {clock : Clock} {moment : Moment} {id : String}
    (hclock : clock.moment = .ok moment) (hname : Text.Whole q.name) (hid : Text.Whole id)
    (hfree : b.holding? clock.seconds (q.guardOf id) = none) :
    ∃ stop, q.Admits b clock.seconds id stop := by
  obtain ⟨stop, hstop⟩ : ∃ stop, markEnd clock.seconds (86400 : ℕ) = .ok stop :=
    Clock.exists_markEnd hclock (by decide) (by decide)
  have hword : Text.Whole ":seen:" := by decide
  exact ⟨stop, (hname.append hword).append hid, hstop, hfree⟩

theorem Tidy.gives_publish_now (h : q.Tidy b) {event : Event}
    (hadmits : q.Admits b now event.id stop)
    (hwrite : (Message.create s!"msg-{b.issued + 1}" event now).write = .ok text) :
    ∃ t, (q.publish now event (.int 0) true).Gives b
        (.ok (some (Message.create s!"msg-{b.issued + 1}" event now))) t ∧
      q.Tidy t ∧ q.board t = (q.board b).queued text := by
  have hpublish := h.ends_publish_admitted hadmits (.int 0)
  exact (hpublish.mono fun result t hends => hends.2 text (prepare_now hwrite)).gives

theorem Tidy.gives_publish_unqueueable (h : q.Tidy b) {event : Event}
    (hadmits : q.Admits b now event.id stop) {delay : ℕ} (hfails : Unqueueable event delay) :
    ∃ fault t, (q.publish now event (.int delay) true).Gives b (.error fault) t ∧ q.Tidy t ∧
      q.board t = q.board b := by
  obtain ⟨fault, hprepare⟩ : ∃ fault, prepare now
      (Message.create s!"msg-{b.issued + 1}" event now) (.int delay) = .error fault :=
    prepare_error_iff.mpr hfails
  obtain ⟨hends, -⟩ := h.ends_publish_admitted hadmits (.int delay)
  have hresult := (hends fault).1.mpr hprepare
  have hguarded := (h.issue (b.issued + 1)).guarded now event.id stop
  exact ⟨fault, _, ⟨hresult, (hends fault).2 hresult⟩, hguarded.tidy, hguarded.board⟩

/-- The lease of a message is set if the store can count its end. -/
theorem Tidy.ends_hold_int (h : q.Tidy b) {seconds : ℤ} (hlease : q.leaseSeconds = .int seconds)
    (hwhole : Text.Whole (q.lease m.id)) :
    (q.hold now m).Ends b fun result t =>
      q.Untouched b t ∧ result = (markEnd now seconds).map fun _ => () := by
  unfold hold
  rw [hlease]
  apply h.ask_ends
  unfold Broker.mark
  apply Attempt.Ends.bind_ok (gives_check hwhole b)
  cases markEnd now seconds with
  | error fault => exact Attempt.Ends.bind_error (Attempt.gives_ofExcept _ b) ⟨h.untouched, rfl⟩
  | ok stop =>
      apply Attempt.Ends.bind_ok (Attempt.gives_ofExcept _ b)
      exact (Attempt.gives_modify _ b).ends ⟨h.withMark (q.lease_not_mem_placeKeys m.id) stop, rfl⟩

theorem Tidy.ends_claim_message (h : q.Tidy b) (hname : Text.Whole q.name)
    (hnext : (q.board b).next? now = some text) (hread : Message.decode text = .ok m)
    (hid : Text.Whole m.id.plainText) {seconds : ℤ} (hlease : q.leaseSeconds = .int seconds) :
    (q.claim now).Ends b fun result t =>
      q.Becomes b t ((q.board b).claimed now) ∧
        result = (markEnd now seconds).map fun _ => .message m := by
  have hfull : text.isEmpty = false := by
    rw [Bool.eq_false_iff, Ne, String.isEmpty_iff]
    rintro rfl
    exact m.decode_empty hread
  unfold claim
  apply h.ends_take hname now
  intro t hclaimed
  rw [hnext]
  simp only [hfull, hread]
  apply Attempt.Ends.bind_ok (Attempt.gives_ofExcept _ t)
  apply (hclaimed.tidy.ends_hold_int hlease (whole_lease hname hid)).bind
  · rintro fault u ⟨hheld, hfault⟩
    cases hstop : markEnd now seconds with
    | error other =>
        rw [hstop] at hfault
        cases hfault
        exact ⟨hclaimed.untouched hheld, rfl⟩
    | ok stop =>
        rw [hstop] at hfault
        cases hfault
  · rintro ⟨⟩ u ⟨hheld, hok⟩
    cases hstop : markEnd now seconds with
    | error other =>
        rw [hstop] at hok
        cases hok
    | ok stop =>
        apply Attempt.Ends.bind_ok (Attempt.gives_note _ _ _ u)
        exact (Attempt.gives_pure _ u).ends ⟨hclaimed.untouched hheld, rfl⟩

theorem Tidy.gives_claim_nothing (h : q.Tidy b) (hname : Text.Whole q.name) (now : Double)
    (hwaiting : (q.board b).waiting = []) : ∃ t, (q.claim now).Gives b (.ok .nothing) t := by
  have hclaim : (q.claim now).Ends b fun result _ => result = .ok .nothing := by
    unfold claim
    apply h.ends_take hname now
    intro t _
    rw [(Board.claimed_of_waiting_nil now hwaiting).1]
    exact (Attempt.gives_pure _ t).ends rfl
  exact ⟨_, hclaim, rfl⟩

/-- The only claimed message leaves no text behind. -/
theorem Tidy.ends_complete_only (h : q.Tidy b) (hname : Text.Whole q.name) (now : Double)
    (hclaimed : (q.board b).processing = [text]) (hread : Message.decode text = .ok m)
    (hsame : m.id.same m.id = true) (hid : Text.Whole m.id.plainText) (htext : Text.Whole text) :
    (q.complete now m).Ends b fun result t =>
      result = .ok () ∧ q.Becomes b t { q.board b with processing := [] } := by
  have hnameable : q.Nameable b m := ⟨hid, by simpa [hclaimed] using htext⟩
  have hfind : findText m.id (q.board b).processing = .ok (some text) := by
    rw [hclaimed, findText, hread, Json.ok_bind, if_pos hsame]
    rfl
  apply (h.ends_release_of_find hname now hnameable hfind).mono
  rintro result t ⟨rfl, hdropped⟩
  have hboard : (q.board b).dropped (some text) = { q.board b with processing := [] } := by
    simp [Board.dropped, hclaimed]
  exact ⟨rfl, hboard ▸ hdropped⟩

/-! ## A queue with one message -/

variable {w : Queue} {seconds : ℤ} {id : String} {dead : List String}

theorem board_of_name (h : w.name = q.name) : w.board = q.board := by
  funext b
  simp only [board, pending, processing, delayed, Queue.dead, h]

theorem Tidy.of_name (h : q.Tidy b) (hname : w.name = q.name) : w.Tidy b := by
  have hkeys : w.placeKeys = q.placeKeys := by rw [placeKeys_eq, placeKeys_eq, hname]
  have hlists : w.listKeys = q.listKeys := List.tail_eq_of_cons_eq hkeys
  have hdelayed : w.delayed = q.delayed := List.head_eq_of_cons_eq hkeys
  exact ⟨h.up, hdelayed ▸ h.list, hlists ▸ h.schedule, hkeys ▸ h.mark⟩

/-- The only text that stands on the queue, and the message that is read of it. -/
structure Holds (q : Queue) (b : Broker) (text : String) (m : Message) (dead : List String) :
    Prop where
  tidy : q.Tidy b
  board : q.board b = ⟨[text], [], [], dead⟩
  name : Text.Whole q.name
  whole : Text.Whole text
  read : Message.decode text = .ok m
  id : ∃ id, m.id = .text id ∧ Text.Whole id

theorem Holds.of_name (h : q.Holds b text m dead) (hname : w.name = q.name) :
    w.Holds b text m dead :=
  ⟨h.tidy.of_name hname, board_of_name hname ▸ h.board, hname ▸ h.name, h.whole, h.read, h.id⟩

theorem Holds.whole_id (h : q.Holds b text m dead) : Text.Whole m.id.plainText := by
  obtain ⟨id, hid, hwhole⟩ := h.id
  rw [hid]
  exact hwhole

/-- The only message is claimed if its lease can be set, and stays with the claimed ones in any
case. -/
theorem Holds.ends_claim (h : q.Holds b text m dead) (hlease : q.leaseSeconds = .int seconds)
    (now : Double) :
    (q.claim now).Ends b fun result t =>
      q.Becomes b t ⟨[], [text], [], dead⟩ ∧
        result = (markEnd now seconds).map fun _ => .message m := by
  have hnext : (q.board b).next? now = some text := by
    rw [h.board]
    rfl
  apply (h.tidy.ends_claim_message h.name hnext h.read h.whole_id hlease).mono
  rw [h.board]
  exact fun result t hends => hends

/-- The only message is claimed and completed, and nothing is left of it. -/
theorem Holds.passes (h : q.Holds b text m dead) (hlease : q.leaseSeconds = .int seconds)
    (hstop : markEnd now seconds = .ok stop) :
    ∃ t u, (q.claim now).Gives b (.ok (.message m)) t ∧ (q.complete now m).Gives t (.ok ()) u ∧
      q.board u = ⟨[], [], [], dead⟩ := by
  have hclaim := h.ends_claim hlease now
  rw [hstop] at hclaim
  obtain ⟨t, hclaimed, ht⟩ := (hclaim.mono fun result t hends => hends.symm).gives
  have hsame : m.id.same m.id = true := by
    obtain ⟨id, hid, -⟩ := h.id
    rw [hid]
    simp [Value.same, Value.number?, Value.text?]
  obtain ⟨u, hcompleted, hu⟩ := (ht.tidy.ends_complete_only h.name now
    (congrArg Board.processing ht.board) h.read hsame h.whole_id h.whole).gives
  refine ⟨t, u, hclaimed, hcompleted, ?_⟩
  rw [hu.board, ht.board]

end Queue

end CaseWorkflow
