import CaseWorkflow.Proofs.Dispatch.Chain

/-!
# Time budgets

An action is reported as timed out if its handler was started and did not end in time, but also
if the handler ended early with a failure of the class that stands for a lack of time.  Every
other failure is reported by its class and its text.
-/

namespace CaseWorkflow

/-! ## Budgets -/

def Value.IsPositive (v : Value) : Prop := v.number?.any Number.isPositive = true

instance (v : Value) : Decidable v.IsPositive := decEq _ _

/-- A whole number of seconds has to be near to a floating point number. -/
def Value.FitsClock (v : Value) : Prop :=
  ∀ i, v.number? = some (.int i) → (Double.ofInt? i).isSome = true

theorem Value.IsPositive.exists_number {v : Value} (h : v.IsPositive) :
    ∃ seconds, v.number? = some seconds ∧ seconds.le (.int 0) = false := by
  obtain ⟨seconds, hnumber, hpositive⟩ := (Option.any_eq_true _ _).mp h
  refine ⟨seconds, hnumber, ?_⟩
  cases hplace : seconds.place? with
  | none => simp [Number.isPositive, Number.lt, Number.cmp?, hplace] at hpositive
  | some p =>
      rw [Number.isPositive_eq_not_le hplace] at hpositive
      simpa using hpositive

theorem Start.of_cases {budget : Value} {seconds : Number} (hnumber : budget.number? = some seconds)
    (hspan : seconds.le (.int 0) = false) :
    (budget.FitsClock ∧ Start.of budget = .begins) ∨
      (¬budget.FitsClock ∧
        Start.of budget = .refused "OverflowError: int too large to convert to float") := by
  unfold Start.of Value.FitsClock
  rw [hnumber]
  simp only [hspan, Bool.false_eq_true, if_false]
  cases seconds with
  | float x => simp
  | int i => cases hfits : Double.ofInt? i <;> simp [hfits]

theorem Start.of_ne_expired {budget : Value} (h : budget.IsPositive) :
    Start.of budget ≠ .expired := by
  obtain ⟨seconds, hnumber, hspan⟩ := h.exists_number
  rcases Start.of_cases hnumber hspan with ⟨-, hstart⟩ | ⟨-, hstart⟩ <;> simp [hstart]

namespace Action

variable {a : Action} {usual : Value}

theorem start_ne_expired (h : (a.budget usual).IsPositive) (event : Event) :
    a.start event usual ≠ .expired := by
  unfold start
  by_cases hcopy : a.isCopyable event = true
  · rw [if_pos hcopy]
    exact Start.of_ne_expired h
  · simp [hcopy]

end Action

/-! ## Reports -/

/-- The class of failures that stands for a lack of time. -/
def Reply.timeoutKind : String := "TimeoutError"

/-- How an action is reported, where the reply is that of its handler, if it was started. -/
structure ActionResult.Reports (a : Action) (reply? : Option Reply) (result : ActionResult) :
    Prop where
  kind : result.kind = a.kind
  timedOut : result.timedOut = true ↔
    reply? = some .hangs ∨ ∃ text, reply? = some (.raised Reply.timeoutKind text)
  success : result.success = true ↔ reply? = some .done
  raised : ∀ error text, reply? = some (.raised error text) → error ≠ Reply.timeoutKind →
    result.message? = some s!"Action '{a.kind.plainText}' failed: {error}: {text}"
  cancelled : reply? = some .cancelled →
    result.message? = some s!"Action '{a.kind.plainText}' failed: CancelledError"

namespace ActionResult

theorem message?_raised (kind : Value) (error text : String) :
    (⟨kind, .failed s!"{error}: {text}"⟩ : ActionResult).message?
      = some s!"Action '{kind.plainText}' failed: {error}: {text}" := by
  simp only [message?, String.append_assoc]
  rfl

theorem message?_cancelled (kind : Value) :
    (⟨kind, .failed "CancelledError"⟩ : ActionResult).message?
      = some s!"Action '{kind.plainText}' failed: CancelledError" := by
  simp only [message?, String.append_assoc]
  rfl

theorem reports_ofReply (a : Action) (budget : Value) (reply : Reply) :
    Reports a (some reply) ⟨a.kind, .ofReply budget reply⟩ := by
  cases reply with
  | done | hangs => constructor <;> simp [Verdict.ofReply, timedOut, success]
  | cancelled =>
      have hmessage := message?_cancelled a.kind
      constructor <;> simp [Verdict.ofReply, timedOut, success, hmessage]
  | raised error text =>
      by_cases herror : error = Reply.timeoutKind
      · subst herror
        constructor <;> simp [Verdict.ofReply, timedOut, success, Reply.timeoutKind]
      · have hverdict : Verdict.ofReply budget (.raised error text)
            = .failed s!"{error}: {text}" := if_neg herror
        have hmessage := message?_raised a.kind error text
        rw [hverdict]
        constructor <;> simp_all [timedOut, success]

theorem reports_none {a : Action} {verdict : Verdict} (hsuccess : verdict ≠ .succeeded)
    (htime : ∀ budget, verdict ≠ .timedOut budget) : Reports a none ⟨a.kind, verdict⟩ := by
  cases verdict with
  | succeeded => exact absurd rfl hsuccess
  | timedOut budget => exact absurd rfl (htime budget)
  | noHandler | failed => constructor <;> simp [timedOut, success]

end ActionResult

namespace Dispatcher

variable {d : Dispatcher} {event : Event} {a : Action} {actions : List Action}
  {calls after : List Call}

/-! ## One action -/

/-- The handler that an action starts. -/
def launches? (d : Dispatcher) (event : Event) (a : Action) : Option Handler :=
  if a.start event d.timeout = .begins then d.handler? a else none

/-- An action with the reply of the handler that it starts. -/
def course (d : Dispatcher) (event : Event) (a : Action) :
    Attempt (List Call) (Action × Option Reply) := do
  match d.launches? event a with
  | none => return (a, none)
  | some handler => return (a, some (← handler.execute a.parameters event))

/-- An action makes the calls that its handler makes, and is reported by its reply. -/
theorem exists_course (hfree : d.interrupted = false) (ha : a.kind.isKey = true)
    (hbudget : (a.budget d.timeout).IsPositive) (event : Event) (calls : List Call) :
    ∃ verdict reply? after,
      (d.execute a event).Gives calls (.ok verdict) after ∧
      (d.course event a).Gives calls (.ok (a, reply?)) after ∧
      ActionResult.Reports a reply? ⟨a.kind, verdict⟩ := by
  rw [execute_eq hfree ha]
  unfold course launches?
  cases hhandler : d.handler? a with
  | none =>
      rw [ite_self]
      exact ⟨.noHandler, none, calls, Attempt.gives_pure Verdict.noHandler calls,
        Attempt.gives_pure (a, none) calls, ActionResult.reports_none (by simp) (by simp)⟩
  | some handler =>
      cases hstarts : a.start event d.timeout with
      | expired => exact absurd hstarts (a.start_ne_expired hbudget event)
      | refused reason =>
          exact ⟨.failed reason, none, calls, Attempt.gives_pure (Verdict.failed reason) calls,
            Attempt.gives_pure (a, none) calls, ActionResult.reports_none (by simp) (by simp)⟩
      | begins =>
          obtain ⟨reply, notes, hrun, -⟩ := handler.exists_run_execute a.parameters event calls
          have hexecute : (handler.execute a.parameters event).Gives calls (.ok reply)
              (calls ++ (handler.call? a.parameters event).toList) := by
            simp [Attempt.Gives, hrun]
          exact ⟨.ofReply (a.budget d.timeout) reply, some reply, _,
            hexecute.bind_ok (Attempt.gives_pure _ _), hexecute.bind_ok (Attempt.gives_pure _ _),
            ActionResult.reports_ofReply a (a.budget d.timeout) reply⟩

theorem gives_step {verdict : Verdict} (h : (d.execute a event).Gives calls (.ok verdict) after)
    (position : ℕ) : (d.step event position a).Gives calls (.ok ⟨a.kind, verdict⟩) after := by
  have hexecute : (d.execute a event).run calls
      = ⟨.ok verdict, after, ((d.execute a event).run calls).notes⟩ := by
    rw [← h.1, ← h.2]
  obtain ⟨level, text, hstep⟩ := exists_run_step hexecute position
  rw [Attempt.Gives, hstep]
  exact ⟨rfl, rfl⟩

/-- No handler can be looked for under a kind that is not a key. -/
theorem gives_step_of_not_isKey (h : a.kind.isKey = false) (d : Dispatcher) (event : Event)
    (position : ℕ) (calls : List Call) :
    (d.step event position a).Gives calls (.error (.notAKey a.kind)) calls := by
  have hfind : d.handlers.find? a.kind = .error (.notAKey a.kind) := by
    simp [Handlers.find?, h]
  have hexecute : (d.execute a event).Gives calls (.error (.notAKey a.kind)) calls := by
    rw [execute, hfind]
    exact (Attempt.gives_ofExcept _ calls).bind_error
  exact hexecute.bind_error

/-! ## The chain -/

theorem gives_dispatchFrom_cons {rest : List Action} {last : List Call} {verdict : Verdict}
    {results : List ActionResult} {position : ℕ}
    (hexecute : (d.execute a event).Gives calls (.ok verdict) after)
    (hrest : (d.dispatchFrom event (position + 1) rest).Gives after (.ok results) last) :
    (d.dispatchFrom event position (a :: rest)).Gives calls
      (.ok (⟨a.kind, verdict⟩ :: results)) last :=
  (gives_step hexecute position).bind_ok (hrest.bind_ok (Attempt.gives_pure _ last))

theorem exists_courses (hfree : d.interrupted = false)
    (hkinds : ∀ a ∈ actions, a.kind.isKey = true)
    (hbudgets : ∀ a ∈ actions, (a.budget d.timeout).IsPositive) (event : Event) (position : ℕ)
    (calls : List Call) :
    ∃ results courses after,
      (d.dispatchFrom event position actions).Gives calls (.ok results) after ∧
      (actions.mapM (d.course event)).Gives calls (.ok courses) after ∧
      courses.map Prod.fst = actions ∧
      List.Forall₂ (fun course result => result.Reports course.1 course.2) courses results := by
  induction actions generalizing position calls with
  | nil =>
      exact ⟨[], [], calls, Attempt.gives_pure [] calls, Attempt.gives_pure [] calls, rfl, .nil⟩
  | cons a rest ih =>
      obtain ⟨verdict, reply?, after, hexecute, hcourse, hreports⟩ :=
        exists_course hfree (hkinds a List.mem_cons_self) (hbudgets a List.mem_cons_self) event
          calls
      -- the calls of this action are part of the history that the later handlers know
      obtain ⟨results, courses, last, hresults, hcourses, hactions, hall⟩ :=
        ih (fun a ha => hkinds a (List.mem_cons_of_mem _ ha))
          (fun a ha => hbudgets a (List.mem_cons_of_mem _ ha)) (position + 1) after
      refine ⟨⟨a.kind, verdict⟩ :: results, (a, reply?) :: courses, last,
        gives_dispatchFrom_cons hexecute hresults, ?_, ?_, .cons hreports hall⟩
      · rw [List.mapM_cons]
        exact hcourse.bind_ok (hcourses.bind_ok (Attempt.gives_pure _ last))
      · rw [List.map_cons, hactions]

theorem ends_dispatchFrom_isKey (d : Dispatcher) (event : Event) (position : ℕ)
    (actions : List Action) (calls : List Call) :
    (d.dispatchFrom event position actions).Ends calls fun result _ =>
      ∀ results, result = .ok results → ∀ a ∈ actions, a.kind.isKey = true := by
  induction actions generalizing position calls with
  | nil => simp [Attempt.Ends]
  | cons a rest ih =>
      by_cases ha : a.kind.isKey = true
      · apply Attempt.Ends.bind (P := fun _ _ => True) trivial
        · simp
        intro result after _
        apply (ih (position + 1) after).bind
        · simp
        intro others last hothers
        apply (Attempt.gives_pure _ last).ends
        intro _ _
        exact List.forall_mem_cons.mpr ⟨ha, hothers others rfl⟩
      · have hstep := gives_step_of_not_isKey (Bool.eq_false_iff.mpr ha) d event position calls
        exact Attempt.Ends.bind_error hstep (by simp)

section Reports

/-- A host that hangs on the first call and refuses the later ones. -/
def staller : Handler :=
  ⟨.text "add_tag", .host "add_tag" fun calls _ =>
    if calls.isEmpty then .hangs else .raised "ValueError" "no tag"⟩

def stalling : Dispatcher := ⟨⟨[(.text "add_tag", staller)]⟩, .int 30, false⟩

def stalledActions : List Action :=
  [tag .null, ⟨.text "archive", .object [], .null⟩, tag (.int 5)]

/-- A host whose own network runs out of time at once. -/
def unreachable : Handler :=
  ⟨.text "add_tag", .host "add_tag" fun _ _ => .raised "TimeoutError" "read timed out"⟩

end Reports

end Dispatcher

end CaseWorkflow
