import CaseWorkflow.Proofs.Number.Order
import CaseWorkflow.Proofs.Queue.Scene

/-!
# What a failed publish leaves behind

The places are as they were when a publish fails.  The guard of the event is not: it is
set before the message is prepared, and a message that cannot be prepared leaves it there,
so that the event counts as published for as long as the guard lasts.
-/

namespace CaseWorkflow

namespace Broker

variable {b : Broker} {now : Double} {key other : String}

theorem holding?_refreshed (b : Broker) (now : Double) (key : String) :
    (b.refreshed now key).holding? now key = b.holding? now key := by
  unfold refreshed
  split
  next hended =>
    simp only [Bool.and_eq_true, Bool.not_eq_true'] at hended
    have hlookup : (Table.erase b.marks key).lookup key = none := by simp [Table.lookup_erase]
    have hgone : ({ b with marks := b.marks.erase key } : Broker).isMarked now key = false := by
      simp [isMarked, hlookup]
    simp only [holding?, hgone, hended.2]
    rfl
  next => rfl

theorem lookup_marks_refreshed (h : other ≠ key) :
    (b.refreshed now key).marks.lookup other = b.marks.lookup other := by
  unfold refreshed
  split
  · simp [Table.lookup_erase, h]
  · rfl

end Broker

namespace Queue

variable {q : Queue} {b t : Broker} {now stop : Double} {id : String} {event : Event}

/-- A key is looked at after what has ended there was cleared. -/
theorem Tidy.gives_holds (h : q.Tidy b) {key : String} (hwhole : Text.Whole key) (now : Double) :
    (q.ask (Broker.holds now key)).Gives b (.ok (b.holding? now key).isSome)
      (b.refreshed now key) := by
  apply h.ask_gives
  unfold Broker.holds
  apply Attempt.Gives.bind_ok (gives_check hwhole b)
  apply Attempt.Gives.bind_ok (Attempt.gives_modify _ b)
  apply Attempt.Gives.bind_ok (Attempt.gives_get _)
  rw [Broker.holding?_refreshed]
  exact Attempt.gives_pure _ _

/-- The guard of an event can be set, and ends then. -/
structure Admits (q : Queue) (b : Broker) (now : Double) (id : String) (stop : Double) : Prop where
  whole : Text.Whole (q.guardOf id)
  stop : markEnd now guardSeconds = .ok stop
  free : b.holding? now (q.guardOf id) = none

/-- The store with the guard of an event. -/
def guarded (q : Queue) (b : Broker) (now : Double) (id : String) (stop : Double) : Broker :=
  (b.refreshed now (q.guardOf id)).withMark (q.guardOf id) stop

theorem Tidy.guarded (h : q.Tidy b) (now : Double) (id : String) (stop : Double) :
    q.Untouched b (q.guarded b now id stop) := by
  have hrefreshed := h.refreshed now (q.guardOf id)
  exact hrefreshed.untouched (hrefreshed.tidy.withMark (q.guardOf_not_mem_placeKeys id) stop)

theorem lookup_marks_guarded (q : Queue) (b : Broker) (now : Double) (id : String) (stop : Double)
    (key : String) : (q.guarded b now id stop).marks.lookup key
      = if key = q.guardOf id then some stop else b.marks.lookup key := by
  rw [guarded, Broker.lookup_marks_withMark]
  split
  next => rfl
  next hne => exact Broker.lookup_marks_refreshed hne

theorem Admits.gives_markFree (h : q.Admits b now id stop) (htidy : q.Tidy b) :
    (q.ask (Broker.markFree now (q.guardOf id) guardSeconds)).Gives b (.ok true)
      (q.guarded b now id stop) := by
  apply htidy.ask_gives
  unfold Broker.markFree
  apply Attempt.Gives.bind_ok (gives_check h.whole b)
  rw [h.stop]
  apply Attempt.Gives.bind_ok (Attempt.gives_ofExcept _ b)
  apply Attempt.Gives.bind_ok (Attempt.gives_modify _ b)
  apply Attempt.Gives.bind_ok (Attempt.gives_get _)
  rw [Broker.holding?_refreshed, h.free]
  exact Attempt.Gives.bind_ok (Attempt.gives_set _ _) (Attempt.gives_pure true _)

theorem Tidy.gives_markFree_held (h : q.Tidy b) (hwhole : Text.Whole (q.guardOf id))
    (hstop : markEnd now guardSeconds = .ok stop) (hheld : b.holding? now (q.guardOf id) ≠ none) :
    (q.ask (Broker.markFree now (q.guardOf id) guardSeconds)).Gives b (.ok false)
      (b.refreshed now (q.guardOf id)) := by
  have hsome : (b.holding? now (q.guardOf id)).isSome = true := Option.isSome_iff_ne_none.mpr hheld
  apply h.ask_gives
  unfold Broker.markFree
  apply Attempt.Gives.bind_ok (gives_check hwhole b)
  rw [hstop]
  apply Attempt.Gives.bind_ok (Attempt.gives_ofExcept _ b)
  apply Attempt.Gives.bind_ok (Attempt.gives_modify _ b)
  apply Attempt.Gives.bind_ok (Attempt.gives_get _)
  rw [Broker.holding?_refreshed, if_pos hsome]
  exact Attempt.gives_pure false _

theorem Tidy.ends_markFree_refused (h : q.Tidy b) (hrefused : ∀ stop, ¬q.Admits b now id stop) :
    (q.ask (Broker.markFree now (q.guardOf id) guardSeconds)).Ends b fun result t =>
      result = .ok false ∨ (∃ fault, result = .error fault) ∧ t = b := by
  by_cases hwhole : Text.Whole (q.guardOf id)
  · cases hstop : markEnd now guardSeconds with
    | error fault =>
        apply h.ask_ends
        unfold Broker.markFree
        apply Attempt.Ends.bind_ok (gives_check hwhole b)
        rw [hstop]
        exact Attempt.Ends.bind_error (Attempt.gives_ofExcept _ b) (.inr ⟨⟨fault, rfl⟩, rfl⟩)
    | ok stop =>
        have hheld : b.holding? now (q.guardOf id) ≠ none := fun hfree =>
          hrefused stop ⟨hwhole, hstop, hfree⟩
        exact (h.gives_markFree_held hwhole hstop hheld).ends (.inl rfl)
  · obtain ⟨fault, hgives⟩ := gives_check_refused hwhole b
    exact (h.ask_gives hgives.bind_error).ends (.inr ⟨⟨fault, rfl⟩, rfl⟩)

/-! ## Messages that cannot be queued -/

/-- A message with the event cannot be written, or is put off by more seconds than a number
can count. -/
def Unqueueable (event : Event) (delay : ℕ) : Prop :=
  (Json.writtenDepth ≤ Json.depth event.toValue ∨ Json.isLegible event.toValue = false) ∨
    (0 < delay ∧ Double.ofInt? delay = none)

theorem putOff?_int (delay : ℕ) :
    putOff? (.int delay) = .ok (if 0 < delay then some (.int delay) else none) := by
  simp [putOff?, Value.number?, Number.isPositive_int]

theorem write_error_iff {m : Message} : (∃ fault, m.write = .error fault) ↔
    Json.writtenDepth < Json.depth m.toValue ∨ Json.isLegible m.toValue = false := by
  unfold Message.write
  split
  next hdeep => simp [hdeep]
  next hshallow =>
    split
    next hlegible => simp [hshallow, hlegible]
    next hlarge => simp [Bool.eq_false_iff.mpr hlarge]

theorem prepare_error_iff {text : String} {delay : ℕ} :
    (∃ fault, prepare now (Message.create text event now) (.int delay) = .error fault) ↔
      Unqueueable event delay := by
  rw [Unqueueable, ← Nat.lt_add_one_iff, ← Message.depth_toValue_create text event now,
    ← Message.isLegible_toValue_create text event now, ← write_error_iff]
  simp only [prepare, putOff?_int, Json.ok_bind]
  cases hwrite : (Message.create text event now).write with
  | error fault => simp [bind, Except.bind]
  | ok text =>
      by_cases hdelay : 0 < delay
      · cases hseconds : Double.ofInt? delay with
        | none => simp [bind, Except.bind, hdelay, dueTime, hseconds]
        | some seconds => simp [bind, Except.bind, pure, Except.pure, hdelay, dueTime, hseconds]
      · simp [bind, Except.bind, pure, Except.pure, hdelay]

/-! ## Failed publishes -/

/-- An event whose guard can be set is published if and only if its message can be prepared. -/
theorem Tidy.ends_publish_admitted (h : q.Tidy b) (hadmits : q.Admits b now event.id stop)
    (delay : Value) :
    (q.publish now event delay true).Ends b fun result t =>
      (∀ fault,
        (result = .error fault ↔
          prepare now (Message.create s!"msg-{b.issued + 1}" event now) delay = .error fault) ∧
          (result = .error fault →
            t = q.guarded { b with issued := b.issued + 1 } now event.id stop)) ∧
        ∀ text,
          prepare now (Message.create s!"msg-{b.issued + 1}" event now) delay = .ok (text, none) →
            result = .ok (some (Message.create s!"msg-{b.issued + 1}" event now)) ∧ q.Tidy t ∧
              q.board t = (q.board b).queued text := by
  have hissued := h.issue (b.issued + 1)
  have hadmitted : q.Admits { b with issued := b.issued + 1 } now event.id stop :=
    ⟨hadmits.whole, hadmits.stop, hadmits.free⟩
  have hguarded := hissued.guarded now event.id stop
  have hname : Text.Whole q.name := hadmits.whole.of_append.of_append
  unfold publish
  apply Attempt.Ends.bind_ok (gives_drawId b)
  apply Attempt.Ends.bind_ok (hadmitted.gives_markFree hissued)
  -- The guard stands from here on, and nothing takes it away when the message is refused.
  apply (hguarded.tidy.ends_enqueue now event _ delay).bind
  · rintro fault t ⟨rfl, hprepare⟩
    rw [hprepare hname]
    exact ⟨fun other => ⟨by simp, fun _ => rfl⟩, by simp⟩
  · rintro ⟨⟩ t ⟨-, -, due?, hprepare, hqueued⟩
    refine (Attempt.gives_pure _ t).ends ⟨fun fault => ?_, fun text htext => ?_⟩
    · rw [hprepare]
      simp
    · rw [hprepare] at htext
      obtain ⟨rfl, rfl⟩ := Prod.mk.inj (Except.ok.inj htext)
      refine ⟨rfl, hqueued.tidy, hqueued.board.trans ?_⟩
      exact congrArg (Board.queued _) hguarded.board

theorem Tidy.ends_publish_refused (h : q.Tidy b) (now : Double) (event : Event) (delay : Value)
    {deduplicate : Bool} (hrefused : deduplicate = true → ∀ stop, ¬q.Admits b now event.id stop) :
    (q.publish now event delay deduplicate).Ends b fun result t =>
      ∀ fault, result = .error fault → t = { b with issued := b.issued + 1 } := by
  have hissued := h.issue (b.issued + 1)
  unfold publish
  apply Attempt.Ends.bind_ok (gives_drawId b)
  cases deduplicate with
  | true =>
      have hrefused' : ∀ stop, ¬q.Admits { b with issued := b.issued + 1 } now event.id stop :=
        fun stop hadmits => hrefused rfl stop ⟨hadmits.whole, hadmits.stop, hadmits.free⟩
      apply (hissued.ends_markFree_refused hrefused').bind
      · rintro fault t (heq | ⟨-, rfl⟩)
        · cases heq
        · exact fun _ _ => rfl
      · rintro accepted t (heq | ⟨⟨fault, heq⟩, -⟩)
        swap
        · cases heq
        obtain rfl := Except.ok.inj heq
        apply Attempt.Ends.bind_ok (Attempt.gives_note _ _ _ t)
        exact (Attempt.gives_pure none t).ends (by simp)
  | false =>
      apply Attempt.Ends.bind_ok (Attempt.gives_pure true _)
      apply (hissued.ends_enqueue now event _ delay).bind
      · exact fun fault t ht _ _ => ht.1
      · exact fun _ t _ => (Attempt.gives_pure _ t).ends (by simp)

/-- As long as a guard stands, its event counts as published. -/
theorem Tidy.ends_publish_duplicate (h : q.Tidy b) (hwhole : Text.Whole (q.guardOf event.id))
    (hstop : markEnd now guardSeconds = .ok stop)
    (hguard : b.isMarked now (q.guardOf event.id) = true) (delay : Value) :
    (q.publish now event delay true).Ends b fun result t =>
      result = .ok none ∧ q.board t = q.board b := by
  have hissued := h.issue (b.issued + 1)
  have hheld : b.holding? now (q.guardOf event.id) ≠ none := by
    intro hfree
    simp only [Broker.holding?, hguard] at hfree
    split at hfree <;> try split at hfree
    all_goals cases hfree
  unfold publish
  apply Attempt.Ends.bind_ok (gives_drawId b)
  apply Attempt.Ends.bind_ok (hissued.gives_markFree_held hwhole hstop hheld)
  apply Attempt.Ends.bind_ok (Attempt.gives_note _ _ _ _)
  exact (Attempt.gives_pure none _).ends ⟨rfl, (hissued.refreshed now _).board⟩

/-- A publish that fails leaves the places as they were, and the marks as well unless the guard
of the event could be set.  Then it fails if and only if the message cannot be queued, and
leaves the guard, by which the event counts as published until the guard ends. -/
theorem failed_publish_trace (h : q.Tidy b) (now : Double) (event : Event) (delay : ℕ)
    (deduplicate : Bool) :
    (q.publish now event (.int delay) deduplicate).Ends b fun result t =>
      (∀ fault, result = .error fault → q.board t = q.board b) ∧
        ((deduplicate = true → ∀ stop, ¬q.Admits b now event.id stop) →
          ∀ fault, result = .error fault → t.marks = b.marks) ∧
        ∀ stop, deduplicate = true → q.Admits b now event.id stop →
          ((∃ fault, result = .error fault) ↔ Unqueueable event delay) ∧
            ∀ fault, result = .error fault →
              (∀ key, t.marks.lookup key
                = if key = q.guardOf event.id then some stop else b.marks.lookup key) ∧
              ∀ later later' again delay', again.id = event.id → later.le stop = true →
                markEnd later guardSeconds = .ok later' →
                (q.publish later again delay' true).Ends t fun result u =>
                  result = .ok none ∧ q.board u = q.board t := by
  have hboard := h.ends_publish now event (.int delay) deduplicate
  refine ⟨?_, ?_, ?_⟩
  · intro fault hfault
    have hpublished := hboard.2.2
    rw [hfault] at hpublished
    exact hpublished
  · intro hrefused fault hfault
    rw [h.ends_publish_refused now event _ hrefused fault hfault]
  · rintro stop rfl hadmits
    obtain ⟨hends, -⟩ := h.ends_publish_admitted hadmits (.int delay)
    refine ⟨?_, fun fault hfault => ?_⟩
    · rw [← prepare_error_iff]
      exact exists_congr fun fault => (hends fault).1
    have hleft := (hends fault).2 hfault
    have htidy := ((h.issue (b.issued + 1)).guarded now event.id stop).tidy
    have hguard := lookup_marks_guarded q { b with issued := b.issued + 1 } now event.id stop
    rw [hleft]
    refine ⟨hguard, fun later later' again delay' hid hlater hstop => ?_⟩
    apply htidy.ends_publish_duplicate (hid ▸ hadmits.whole) hstop
    rw [Broker.isMarked, hguard, hid, if_pos rfl]
    exact hlater

/-- More seconds than a number can count. -/
def endlessDelay : ℕ := 10 ^ 400

theorem unqueueable_endlessDelay : Unqueueable commentEvent endlessDelay :=
  .inr ⟨by decide +kernel, by decide +kernel⟩

theorem admits_commentEvent :
    minuteQueue.Admits Broker.empty (Double.ofNat 0) commentEvent.id (Double.ofNat 86400) :=
  ⟨by decide +kernel, Attempt.toOption_eq_some_iff.mp (by decide +kernel), by decide +kernel⟩

/-- The empty store after an event was refused. -/
def afterRefusal : Broker :=
  minuteQueue.guarded { Broker.empty with issued := 1 } (Double.ofNat 0) commentEvent.id
    (Double.ofNat 86400)

theorem failed_publish_trace_endless :
    minuteQueue.Tidy Broker.empty ∧
      (minuteQueue.publish (Double.ofNat 0) commentEvent (.int endlessDelay) true).Ends Broker.empty
        fun result t =>
          (∃ fault, result = .error fault) ∧
            t.marks.lookup (minuteQueue.guardOf commentEvent.id) = some (Double.ofNat 86400) := by
  have htrace := failed_publish_trace minuteQueue.tidy_empty (Double.ofNat 0) commentEvent
    endlessDelay true
  refine ⟨minuteQueue.tidy_empty, ?_⟩
  apply htrace.mono
  rintro result t ⟨-, -, hadmitted⟩
  obtain ⟨hfails, hleft⟩ := hadmitted _ rfl admits_commentEvent
  obtain ⟨fault, hfault⟩ := hfails.mpr unqueueable_endlessDelay
  refine ⟨⟨fault, hfault⟩, ?_⟩
  rw [(hleft fault hfault).1, if_pos rfl]

/-- A failed publish can leave a guard where none stood, so that the next publish of the event
without a delay is taken for a duplicate. -/
theorem exists_guard_after_failed_publish :
    Broker.empty.marks.lookup (minuteQueue.guardOf commentEvent.id) = none ∧
      (∃ fault, (minuteQueue.publish (Double.ofNat 0) commentEvent (.int endlessDelay) true).Gives
        Broker.empty (.error fault) afterRefusal) ∧
      afterRefusal.marks.lookup (minuteQueue.guardOf commentEvent.id) = some (Double.ofNat 86400) ∧
      (minuteQueue.publish (Double.ofNat 0) commentEvent (.int 0) true).Ends afterRefusal
        fun result _ => result = .ok none := by
  obtain ⟨hends, -⟩ := minuteQueue.tidy_empty.ends_publish_admitted admits_commentEvent
    (.int endlessDelay)
  obtain ⟨fault, hprepare⟩ : ∃ fault, prepare (Double.ofNat 0)
      (Message.create s!"msg-{Broker.empty.issued + 1}" commentEvent (Double.ofNat 0))
        (.int endlessDelay) = .error fault := prepare_error_iff.mpr unqueueable_endlessDelay
  have hfault := (hends fault).1.mpr hprepare
  have htidy : minuteQueue.Tidy afterRefusal :=
    ((minuteQueue.tidy_empty.issue 1).guarded (Double.ofNat 0) commentEvent.id _).tidy
  have hguard : afterRefusal.marks.lookup (minuteQueue.guardOf commentEvent.id)
      = some (Double.ofNat 86400) := by
    rw [afterRefusal, lookup_marks_guarded, if_pos rfl]
  have hmarked :
      afterRefusal.isMarked (Double.ofNat 0) (minuteQueue.guardOf commentEvent.id) = true := by
    rw [Broker.isMarked, hguard]
    decide +kernel
  refine ⟨rfl, ⟨fault, hfault, (hends fault).2 hfault⟩, hguard, ?_⟩
  apply (htidy.ends_publish_duplicate admits_commentEvent.whole admits_commentEvent.stop hmarked
    (.int 0)).mono
  exact fun result t hduplicate => hduplicate.1

end Queue

end CaseWorkflow
