import CaseWorkflow.Proofs.Queue.Bare
import CaseWorkflow.Proofs.Queue.Guard
import CaseWorkflow.Proofs.Queue.MarkEnd

/-!
# The window of an event

An event that was published with a guard is not published so again within a day.  In a run in
which no publish fails, the guard of an event stands for the last publish that set it and for
nothing else: a refused publish does not renew it, and no other operation touches it.
-/

namespace CaseWorkflow

open Attempt

namespace Queue

variable {q : Queue} {b t : Broker} {s : Scene} {now : Double} {id : String} {key : String}

/-! ## What stands under the keys of the guards -/

theorem guardOf_injective (q : Queue) : Function.Injective q.guardOf := fun id id' h => by
  unfold guardOf at h
  exact (String.append_right_inj _).mp h

theorem guardOf_ne_lease (q : Queue) (id : String) (message : Value) :
    q.guardOf id ≠ q.lease message := by
  intro h
  have hwords : ":seen:" ++ id = ":lease:" ++ message.plainText := by
    rw [guardOf, lease, String.append_assoc, String.append_assoc] at h
    exact (String.append_right_inj _).mp h
  have hchars := congrArg String.toList hwords
  rw [String.toList_append, String.toList_append] at hchars
  simp at hchars

/-- The same guards stand in both stores. -/
def SameGuards (q : Queue) (b t : Broker) : Prop :=
  ∀ id, t.marks.lookup (q.guardOf id) = b.marks.lookup (q.guardOf id)

instance : IsPreorder Broker q.SameGuards where
  refl _ _ := rfl
  trans _ _ _ h h' id := (h' id).trans (h id)

/-! Changes under other keys leave the guards alone. -/

section OtherKeys

variable (hkey : ∀ id, q.guardOf id ≠ key)
include hkey

theorem sameGuards_refreshed (b : Broker) (now : Double) : q.SameGuards b (b.refreshed now key) :=
  fun id => Broker.lookup_marks_refreshed (hkey id)

theorem sameGuards_without (b : Broker) : q.SameGuards b (b.without key) :=
  fun id => Broker.lookup_marks_without (hkey id)

theorem sameGuards_withMark (b : Broker) (stop : Double) : q.SameGuards b (b.withMark key stop) :=
  fun id => by rw [Broker.lookup_marks_withMark, if_neg (hkey id)]

end OtherKeys

theorem keptByPlaces_sameGuards (q : Queue) (now : Double) :
    q.KeptByPlaces now q.SameGuards where
  preorder := inferInstance
  refreshed _ hkey b := sameGuards_refreshed
    (fun id heq => q.guardOf_not_mem_placeKeys id (heq ▸ hkey)) b now
  list _ _ _ _ _ := rfl
  schedule _ _ _ := rfl

/-! ## Moves -/

/-- The end of the window that opens now. -/
def windowEnd (now : Double) : Double := now.add (Double.ofNat 86400)

theorem eq_windowEnd {stop : Double} (h : markEnd now guardSeconds = .ok stop) :
    stop = windowEnd now := (markEnd_eq_ok h).2.2

/-- A guard is set if none stands that has not ended. -/
theorem Tidy.ends_markFree_guard (h : q.Tidy b) (hbare : b.Bare (q.guardOf id)) (now : Double) :
    (q.ask (Broker.markFree now (q.guardOf id) guardSeconds)).Ends b fun result t =>
      match result with
      | .ok true => b.isMarked now (q.guardOf id) = false ∧ t = q.guarded b now id (windowEnd now)
      | .ok false => b.isMarked now (q.guardOf id) = true ∧ t = b
      | .error _ => True := by
  by_cases hwhole : Text.Whole (q.guardOf id)
  swap
  · obtain ⟨fault, hrefused⟩ := gives_check_refused hwhole b
    exact (h.ask_gives hrefused.bind_error).ends trivial
  cases hstop : markEnd now guardSeconds with
  | error fault =>
      apply h.ask_ends
      unfold Broker.markFree
      apply Ends.bind_ok (gives_check hwhole b)
      rw [hstop]
      exact Ends.bind_error (gives_ofExcept _ b) trivial
  | ok stop =>
      have hholding := hbare.holding? now
      cases hmarked : b.isMarked now (q.guardOf id) with
      | false =>
          have hadmits : q.Admits b now id stop := ⟨hwhole, hstop, by simp [hholding, hmarked]⟩
          exact (hadmits.gives_markFree h).ends ⟨rfl, by rw [eq_windowEnd hstop]⟩
      | true =>
          have hheld : b.holding? now (q.guardOf id) ≠ none := by simp [hholding, hmarked]
          have hsame : b.refreshed now (q.guardOf id) = b := by
            simp [Broker.refreshed, hmarked]
          have hrefused := h.gives_markFree_held hwhole hstop hheld
          rw [hsame] at hrefused
          exact hrefused.ends ⟨rfl, rfl⟩

/-- What a publish does to the guards: it sets that of its event if it is made with one and goes
through, and leaves all alone if it is made without or is refused. -/
def Windows (q : Queue) (b : Broker) (now : Double) (id : String) (deduplicate : Bool)
    (result : Except Fault (Option Message)) (t : Broker) : Prop :=
  match result with
  | .ok (some _) =>
    (deduplicate = true → b.isMarked now (q.guardOf id) = false) ∧
      ∀ other, t.marks.lookup (q.guardOf other)
        = if deduplicate ∧ other = id then some (windowEnd now)
          else b.marks.lookup (q.guardOf other)
  | .ok none =>
    deduplicate = true ∧ b.isMarked now (q.guardOf id) = true ∧
      t = { b with issued := b.issued + 1 }
  | .error _ => True

theorem Tidy.ends_publish_windows (h : q.Tidy b) {event : Event}
    (hbare : b.Bare (q.guardOf event.id)) (now : Double) (delay : Value) (deduplicate : Bool) :
    (q.publish now event delay deduplicate).Ends b (q.Windows b now event.id deduplicate) := by
  have hissued := h.issue (b.issued + 1)
  have henqueue := fun message => (q.keptByPlaces_sameGuards now).enqueue event message delay
  unfold publish
  apply Ends.bind_ok (gives_drawId b)
  cases deduplicate with
  | true =>
      apply (hissued.ends_markFree_guard hbare now).bind
      · exact fun fault t ht => trivial
      rintro accepted t ht
      cases accepted with
      | true =>
          obtain ⟨hfree, rfl⟩ := ht
          apply (henqueue _ _).bind
          · exact fun fault u hu => trivial
          · refine fun _ u hu => (gives_pure _ u).ends ⟨fun _ => hfree, fun other => ?_⟩
            simp only [hu other, lookup_marks_guarded, q.guardOf_injective.eq_iff, true_and]
      | false =>
          obtain ⟨hmarked, rfl⟩ := ht
          apply Ends.bind_ok (gives_note _ _ _ _)
          exact (gives_pure none _).ends ⟨rfl, hmarked, rfl⟩
  | false =>
      apply Ends.bind_ok (gives_pure true _)
      apply (henqueue _ _).bind
      · exact fun fault u hu => trivial
      · exact fun _ u hu => (gives_pure _ u).ends ⟨by simp, fun other => by simp [hu other]⟩

/-! ## Runs in which no publish fails -/

/-- Whether the move is no publish that fails. -/
def goesThrough (q : Queue) (s : Scene) : Move → Bool
  | .publish event delay deduplicate =>
    ((q.publish s.now event delay deduplicate).run s.broker).result.toOption.isSome
  | _ => true

/-- Whether no publish of a row of moves fails. -/
def allGoThrough (q : Queue) : Scene → List Move → Bool
  | _, [] => true
  | s, move :: rest => q.goesThrough s move && q.allGoThrough (q.step s move) rest

theorem allGoThrough_append (q : Queue) (s : Scene) (moves more : List Move) :
    q.allGoThrough s (moves ++ more)
      = (q.allGoThrough s moves && q.allGoThrough (q.run s moves) more) := by
  induction moves generalizing s with
  | nil => rfl
  | cons move rest ih =>
      rw [List.cons_append, allGoThrough, allGoThrough, ih, Bool.and_assoc]
      rfl

/-- The time at which the move publishes the event with a guard, and a message is answered. -/
def admission? (q : Queue) (id : String) (s : Scene) : Move → Option Double
  | .publish event delay true =>
    if event.id = id then
      ((q.publish s.now event delay true).run s.broker).result.toOption.join.map fun _ => s.now
    else none
  | _ => none

/-- The times at which a row of moves publishes the event with a guard. -/
def admissions (q : Queue) (id : String) : Scene → List Move → List Double
  | _, [] => []
  | s, move :: rest => (q.admission? id s move).toList ++ q.admissions id (q.step s move) rest

theorem admissions_append (q : Queue) (id : String) (s : Scene) (moves more : List Move) :
    q.admissions id s (moves ++ more)
      = q.admissions id s moves ++ q.admissions id (q.run s moves) more := by
  induction moves generalizing s with
  | nil => rfl
  | cons move rest ih =>
      rw [List.cons_append, admissions, admissions, ih, List.append_assoc]
      rfl

/-- The guards of a move: the one that it sets ends with the window, the others stay. -/
theorem guards_step (h : q.Tidy s.broker) (hbare : ∀ id, s.broker.Bare (q.guardOf id))
    {move : Move} (hthrough : q.goesThrough s move = true) (id : String) :
    (q.step s move).broker.marks.lookup (q.guardOf id)
      = ((q.admission? id s move).map windowEnd).or (s.broker.marks.lookup (q.guardOf id)) := by
  have hplaces := q.keptByPlaces_sameGuards s.now
  have hmark : ∀ b id stop, q.SameGuards b (b.withMark (q.lease id) stop) := fun b id stop =>
    sameGuards_withMark (fun guard => q.guardOf_ne_lease guard id) b stop
  have hwithout : ∀ b id, q.SameGuards b (b.without (q.lease id)) := fun b id =>
    sameGuards_without (fun guard => q.guardOf_ne_lease guard id) b
  have hrefreshed : ∀ b id, q.SameGuards b (b.refreshed s.now (q.lease id)) := fun b id =>
    sameGuards_refreshed (fun guard => q.guardOf_ne_lease guard id) b s.now
  cases move with
  | publish event delay deduplicate =>
      have hwindows := h.ends_publish_windows (hbare event.id) s.now delay deduplicate
      have hadmission : q.admission? id s (.publish event delay deduplicate)
          = if deduplicate ∧ id = event.id then
              ((q.publish s.now event delay deduplicate).run s.broker).result.toOption.join.map
                fun _ => s.now
            else none := by
        cases deduplicate <;> simp [admission?, eq_comm]
      simp only [goesThrough] at hthrough
      simp only [Queue.step, hadmission]
      unfold Ends at hwindows
      generalize (q.publish s.now event delay deduplicate).run s.broker = outcome
        at hwindows hthrough ⊢
      obtain ⟨result, t, notes⟩ := outcome
      rcases result with fault | _ | p
      · cases hthrough
      · obtain ⟨-, -, rfl⟩ := hwindows
        split <;> rfl
      · rw [hwindows.2]
        split <;> rfl
  | claim => exact hplaces.claim hmark s.broker id
  | complete copy =>
      simp only [Queue.step]
      split
      next => rfl
      next c _ => exact hplaces.release (fun b => hwithout b c.id) s.broker id
  | retry copy =>
      simp only [Queue.step]
      split
      next => rfl
      next c _ => exact hplaces.retry (fun b => hwithout b c.id) s.broker id
  | bury copy reason =>
      simp only [Queue.step]
      split
      next => rfl
      next c _ => exact hplaces.bury (fun b => hwithout b c.id) _ s.broker id
  | requeue limit => exact hplaces.requeueExpired hrefreshed hwithout limit s.broker id
  | wait now => rfl

theorem bare_guards_run (q : Queue) (start : Double) (moves : List Move) (id : String) :
    (q.run (Scene.start start) moves).broker.Bare (q.guardOf id) :=
  q.bare_run start moves (q.guardOf_not_mem_placeKeys id)

/-- In a run in which no publish fails the guard of each event is that of the last publish that
set it. -/
theorem guards_run (q : Queue) (start : Double) (moves : List Move)
    (hthrough : q.allGoThrough (Scene.start start) moves = true) (id : String) :
    (q.run (Scene.start start) moves).broker.marks.lookup (q.guardOf id)
      = (q.admissions id (Scene.start start) moves).getLast?.map windowEnd := by
  induction moves using List.reverseRecOn with
  | nil => rfl
  | append_singleton moves move ih =>
      rw [allGoThrough_append, Bool.and_eq_true] at hthrough
      have hmove : q.goesThrough (q.run (Scene.start start) moves) move = true := by
        simpa [allGoThrough] using hthrough.2
      have htidy := (q.sound_run start moves).ledger.tidy
      rw [run_concat, guards_step htidy (q.bare_guards_run start moves) hmove, ih hthrough.1,
        admissions_append, List.getLast?_append, admissions, admissions, List.append_nil]
      cases q.admission? id (q.run (Scene.start start) moves) move <;> rfl

/-- In a run in which no publish fails, a publish with a guard that goes through is refused if and
only if the last publish of the event that was not refused lies at most a day back.  No other
move opens or closes the window of an event, and a refused publish leaves the store as it was. -/
theorem refused_iff_within_window (q : Queue) (start : Double) (moves : List Move)
    (hthrough : q.allGoThrough (Scene.start start) moves = true) (s : Scene)
    (hs : s = q.run (Scene.start start) moves) :
    (∀ event delay, (q.publish s.now event delay true).Ends s.broker fun result _ =>
      ∀ answer, result = .ok answer →
        (answer = none ↔ ∃ last,
          (q.admissions event.id (Scene.start start) moves).getLast? = some last ∧
            s.now.le (windowEnd last) = true)) ∧
    (∀ id move, q.goesThrough s move = true → q.admission? id s move = none →
      ∀ later, (q.step s move).broker.isMarked later (q.guardOf id)
        = s.broker.isMarked later (q.guardOf id)) ∧
    ∀ event delay deduplicate,
      (q.publish s.now event delay deduplicate).Ends s.broker fun result t =>
        result = .ok none → t = { s.broker with issued := s.broker.issued + 1 } := by
  subst hs
  have htidy := (q.sound_run start moves).ledger.tidy
  have hbare := q.bare_guards_run start moves
  have hguards := q.guards_run start moves hthrough
  generalize q.run (Scene.start start) moves = s at htidy hbare hguards ⊢
  refine ⟨fun event delay => ?_, fun id move hmove hnone later => ?_,
    fun event delay deduplicate => ?_⟩
  · have hmarked : s.broker.isMarked s.now (q.guardOf event.id) = true ↔ ∃ last,
        (q.admissions event.id (Scene.start start) moves).getLast? = some last ∧
          s.now.le (windowEnd last) = true := by
      rw [Broker.isMarked, hguards]
      cases (q.admissions event.id (Scene.start start) moves).getLast? <;> simp
    rw [← hmarked]
    apply (htidy.ends_publish_windows (hbare event.id) s.now delay true).mono
    rintro result t hwindows answer rfl
    cases answer with
    | none => exact ⟨fun _ => hwindows.2.1, fun _ => rfl⟩
    | some p => simp [hwindows.1 rfl]
  · rw [Broker.isMarked, Broker.isMarked, guards_step htidy hbare hmove, hnone]
    rfl
  · apply (htidy.ends_publish_windows (hbare event.id) s.now delay deduplicate).mono
    rintro result t hwindows rfl
    exact hwindows.2.2

/-- A day on which a comment is published with a guard, and published again without one. -/
def commentedDay : List Move :=
  [.publish commentEvent (.int 0) true, .publish commentEvent (.int 0) false,
    .wait (Double.ofNat 86399)]

theorem refused_iff_within_window_comment :
    minuteQueue.allGoThrough (Scene.start (Double.ofNat 0)) commentedDay = true ∧
      ∃ s, s = minuteQueue.run (Scene.start (Double.ofNat 0)) commentedDay ∧
        (minuteQueue.publish s.now commentEvent (.int 0) true).Ends s.broker fun result t =>
          result = .ok none ∧ t = { s.broker with issued := s.broker.issued + 1 } := by
  have hall : minuteQueue.allGoThrough (Scene.start (Double.ofNat 0))
      (commentedDay ++ [.publish commentEvent (.int 0) true]) = true := by decide +kernel
  have hlast : (minuteQueue.admissions commentEvent.id (Scene.start (Double.ofNat 0))
      commentedDay).getLast? = some (Double.ofNat 0) := by decide +kernel
  have hnow : (minuteQueue.run (Scene.start (Double.ofNat 0)) commentedDay).now
      = Double.ofNat 86399 := rfl
  have hwithin : (Double.ofNat 86399).le (windowEnd (Double.ofNat 0)) = true := by decide +kernel
  rw [allGoThrough_append, Bool.and_eq_true] at hall
  obtain ⟨hthrough, hagain⟩ := hall
  obtain ⟨hrefused, -, hleft⟩ :=
    refused_iff_within_window minuteQueue (Double.ofNat 0) commentedDay hthrough _ rfl
  generalize minuteQueue.run (Scene.start (Double.ofNat 0)) commentedDay = s
    at hnow hagain hrefused hleft ⊢
  rw [allGoThrough, goesThrough, Bool.and_eq_true] at hagain
  obtain ⟨answer, hanswer⟩ := Option.isSome_iff_exists.mp hagain.1
  have hok := toOption_eq_some_iff.mp hanswer
  obtain rfl : answer = none :=
    (hrefused commentEvent (.int 0) answer hok).mpr ⟨_, hlast, hnow ▸ hwithin⟩
  exact ⟨hthrough, s, rfl, hok, hleft commentEvent (.int 0) true hok⟩

end Queue

end CaseWorkflow
