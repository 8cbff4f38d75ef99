import CaseWorkflow.Proofs.Number.Order
import CaseWorkflow.Proofs.Queue.RoundTrip

/-!
# A chain of actions

Each action of a chain has its result, in the order of the actions.  The handlers that
start are those of the actions that have a handler, time, and data that can be copied;
each starts once, in this order, on the parameters as declared and the event as it was.
-/

namespace CaseWorkflow

/-! ## Time -/

/-- A time in seconds that a clock can count: a finite number, or an integer near to one. -/
inductive Value.IsSpan : Value → Prop
  | int {i : ℤ} {d : Double} (h : Double.ofInt? i = some d) : IsSpan (.int i)
  | float {negative : Bool} {mantissa : ℕ} {exponent : ℤ} {canonical : Canonical mantissa exponent} :
      IsSpan (.float (.finite negative mantissa exponent canonical))

/-- The time that an action gets in seconds: its own, where it names one other than zero, or
else the usual one. -/
def Action.seconds? (a : Action) (usual : Value) : Option Number :=
  match a.timeout.properNumber? with
  | some own => if own.isZero then usual.properNumber? else some own
  | none => usual.properNumber?

def Action.hasTime (a : Action) (usual : Value) : Bool :=
  (a.seconds? usual).any Number.isPositive

theorem Value.IsSpan.start {budget : Value} (h : budget.IsSpan) :
    Start.of budget
      = if budget.properNumber?.any Number.isPositive then .begins else .expired := by
  cases h with
  | int hfinite =>
      rename_i i _
      have hplace : (Number.int i).place? = some (.on ⟨i, 0⟩) := rfl
      simp only [Start.of, Value.number?, properNumber?, Option.any_some,
        Number.isPositive_eq_not_le hplace, hfinite, Option.isNone_some]
      cases (Number.int i).le (.int 0) <;> rfl
  | float =>
      rename_i negative mantissa exponent canonical
      have hplace : (Number.float (.finite negative mantissa exponent canonical)).place?
          = some (.on ⟨Double.signed negative mantissa, exponent⟩) := rfl
      simp only [Start.of, Value.number?, properNumber?, Option.any_some,
        Number.isPositive_eq_not_le hplace]
      cases (Number.float (.finite negative mantissa exponent canonical)).le (.int 0) <;> rfl

theorem Action.seconds?_eq {a : Action} (h : a.timeout = .null ∨ a.timeout.IsSpan)
    (usual : Value) : a.seconds? usual = (a.budget usual).properNumber? := by
  unfold seconds? budget Value.orElse
  rcases h with hnull | hspan
  · simp [hnull, Value.properNumber?, Value.isTruthy]
  · generalize a.timeout = own at hspan
    cases hspan with
    | int hfinite =>
        rename_i i _
        have hzero : (Number.int i).isZero = (i == 0) := by
          rw [Bool.eq_iff_iff]
          simp [Number.isZero, Number.eq, Number.cmp?_int]
        simp only [Value.properNumber?, Value.isTruthy, hzero]
        by_cases hi : i = 0 <;> simp [hi]
    | float =>
        simp only [Value.properNumber?, Value.isTruthy]
        split <;> simp_all

/-- A span lets a handler start if it is positive. -/
theorem Action.start_eq {a : Action} {usual : Value} (htime : a.timeout = .null ∨ a.timeout.IsSpan)
    (husual : usual.IsSpan) (event : Event) (hcopy : a.isCopyable event = true) :
    a.start event usual = if a.hasTime usual then .begins else .expired := by
  have hbudget : (a.budget usual).IsSpan := by
    unfold budget Value.orElse
    split
    next hown =>
      rcases htime with hnull | hspan
      · rw [hnull] at hown
        cases hown
      · exact hspan
    next => exact husual
  rw [start, if_pos hcopy, hbudget.start, hasTime, seconds?_eq htime]

/-! ## One action -/

namespace Handler

/-- The call of a host capability that a handler makes. -/
def call? (handler : Handler) (parameters : Value) (event : Event) : Option Call :=
  match handler.conduct with
  | .host capability _ => some ⟨capability, parameters, event⟩
  | .logging _ => none

/-- A handler replies, and calls the host at most once. -/
theorem exists_run_execute (handler : Handler) (parameters : Value) (event : Event)
    (calls : List Call) :
    ∃ reply notes, (handler.execute parameters event).run calls
        = ⟨.ok reply, calls ++ (handler.call? parameters event).toList, notes⟩ ∧
      ∀ note ∈ notes, note.writer = .handlers := by
  unfold execute call?
  cases handler.conduct with
  | host capability respond => exact ⟨respond calls ⟨capability, parameters, event⟩, [], rfl, by simp⟩
  | logging outlet =>
      simp only [Option.toList_none, List.append_nil]
      cases renderParameters (parameters.entries?.getD []) event with
      | error obstacle => exact ⟨replyOf obstacle, [], rfl, by simp⟩
      | ok rendered =>
          unfold noteBy
          cases outlet with
          | level level =>
              exact ⟨.done, [⟨.handlers, level, actionText handler.kind event rendered⟩], rfl,
                by simp⟩
          | silent | levelNames | records | closed => exact ⟨_, [], rfl, by simp⟩

end Handler

namespace ActionResult

theorem success_eq (result : ActionResult) : result.success = result.error?.isNone := by
  unfold success error?
  cases result.verdict <;> rfl

theorem error?_ofReply (kind budget : Value) (reply : Reply) :
    (⟨kind, .ofReply budget reply⟩ : ActionResult).error?
      = if reply = .done then none else some .actionExecution := by
  cases reply with
  | raised kind text =>
      unfold Verdict.ofReply error?
      by_cases htime : kind = "TimeoutError" <;> simp [htime]
  | done | cancelled | hangs => rfl

end ActionResult

namespace Dispatcher

variable {d : Dispatcher} {event : Event} {a : Action} {handler : Handler} {calls : List Call}

/-- The handler that is registered for the kind of an action. -/
def handler? (d : Dispatcher) (a : Action) : Option Handler :=
  (d.handlers.find? a.kind).toOption.join

/-- The handler that an action starts. -/
def starts? (d : Dispatcher) (event : Event) (a : Action) : Option Handler :=
  if a.isCopyable event && a.hasTime d.timeout then d.handler? a else none

/-- What goes wrong with an action, where the reply is that of the handler that it starts. -/
def error? (d : Dispatcher) (a : Action) (reply? : Option Reply) : Option ErrorKind :=
  if (d.handler? a).isNone then some .unknownActionKind
  else if reply? = some .done then none
  else some .actionExecution

/-- What an action comes to, unless the run is cut short from outside. -/
theorem execute_eq (hfree : d.interrupted = false) (ha : a.kind.isKey = true) (event : Event) :
    d.execute a event =
      match d.handler? a with
      | none => pure .noHandler
      | some handler =>
        match a.start event d.timeout with
        | .expired => pure (.timedOut (a.budget d.timeout))
        | .refused reason => pure (.failed reason)
        | .begins => do
          return .ofReply (a.budget d.timeout) (← handler.execute a.parameters event) := by
  have hfind : d.handlers.find? a.kind = .ok (d.handler? a) := by
    simp [handler?, Handlers.find?, ha, Except.toOption]
  rw [execute, hfind, Attempt.ofExcept_ok_bind, hfree]
  rfl

/-- An action that starts no handler makes no call. -/
theorem run_execute_of_not_starts (hfree : d.interrupted = false) (ha : a.kind.isKey = true)
    (htime : a.timeout = .null ∨ a.timeout.IsSpan) (husual : d.timeout.IsSpan)
    (h : d.starts? event a = none) (calls : List Call) :
    ∃ verdict, (d.execute a event).run calls = ⟨.ok verdict, calls, []⟩ ∧
      (⟨a.kind, verdict⟩ : ActionResult).error? = d.error? a none := by
  rw [execute_eq hfree ha, error?]
  cases hhandler : d.handler? a with
  | none => exact ⟨.noHandler, rfl, rfl⟩
  | some handler =>
      by_cases hcopy : a.isCopyable event = true
      · have hlate : a.hasTime d.timeout = false := by
          by_contra htimely
          simp [starts?, hcopy, htimely, hhandler] at h
        have hstart := a.start_eq htime husual event hcopy
        rw [hlate] at hstart
        simp only [hstart]
        exact ⟨.timedOut (a.budget d.timeout), rfl, rfl⟩
      · simp only [Action.start, hcopy, Bool.false_eq_true, if_false]
        exact ⟨.failed _, rfl, rfl⟩

/-- An action that starts a handler does what the handler does. -/
theorem run_execute_of_starts (hfree : d.interrupted = false) (ha : a.kind.isKey = true)
    (htime : a.timeout = .null ∨ a.timeout.IsSpan) (husual : d.timeout.IsSpan)
    (h : d.starts? event a = some handler) {reply : Reply} {after : List Call} {notes : List Note}
    (hrun : (handler.execute a.parameters event).run calls = ⟨.ok reply, after, notes⟩) :
    ∃ verdict, (d.execute a event).run calls = ⟨.ok verdict, after, notes⟩ ∧
      (⟨a.kind, verdict⟩ : ActionResult).error? = d.error? a (some reply) := by
  unfold starts? at h
  split at h
  next hstarts =>
    obtain ⟨hcopy, htimely⟩ := Bool.and_eq_true_iff.mp hstarts
    have hstart := a.start_eq htime husual event hcopy
    rw [htimely, if_pos rfl] at hstart
    refine ⟨.ofReply (a.budget d.timeout) reply, ?_, ?_⟩
    · rw [execute_eq hfree ha]
      simp only [h, hstart]
      rw [← List.append_nil notes]
      exact Attempt.run_bind_of_run hrun (Attempt.run_pure _ _)
    · rw [ActionResult.error?_ofReply, error?, h]
      simp
  next => cases h

/-- The result of an action is noted by the dispatcher. -/
theorem exists_run_step {verdict : Verdict} {after : List Call} {notes : List Note}
    (h : (d.execute a event).run calls = ⟨.ok verdict, after, notes⟩) (position : ℕ) :
    ∃ level text, (d.step event position a).run calls
      = ⟨.ok ⟨a.kind, verdict⟩, after, notes ++ [⟨.dispatcher, level, text⟩]⟩ := by
  unfold step
  cases hmessage : (⟨a.kind, verdict⟩ : ActionResult).message? with
  | none =>
      refine ⟨.debug, s!"Action '{a.kind.plainText}' completed for event {event.id}",
        Attempt.run_bind_of_run h ?_⟩
      simp only [hmessage]
      rfl
  | some message =>
      refine ⟨.warning,
        s!"Action {position} '{a.kind.plainText}' failed for event {event.id}: {message}",
        Attempt.run_bind_of_run h ?_⟩
      simp only [hmessage]
      rfl

/-! ## The chain -/

/-- The actions that start a handler, each with the handler. -/
def started (d : Dispatcher) (event : Event) (actions : List Action) : List (Handler × Action) :=
  actions.filterMap fun a => (d.starts? event a).map (·, a)

/-- Runs handlers, each on what its action declares and on the event. -/
def runAll (event : Event) (started : List (Handler × Action)) :
    Attempt (List Call) (List Reply) :=
  started.mapM fun (handler, a) => handler.execute a.parameters event

/-- What goes wrong with each action, where the replies of the handlers that start come one
after another. -/
def errors (d : Dispatcher) (event : Event) : List Action → List Reply → List (Option ErrorKind)
  | [], _ => []
  | a :: rest, replies =>
    if (d.starts? event a).isSome then
      d.error? a replies.head? :: errors d event rest replies.tail
    else d.error? a none :: errors d event rest replies

/-- The calls that handlers make of the host. -/
def hostCalls (event : Event) (started : List (Handler × Action)) : List Call :=
  started.filterMap fun (handler, a) => handler.call? a.parameters event

section Run

variable {rest : List Action} {after final : List Call} {notes more : List Note}

theorem run_dispatchFrom_cons {position : ℕ} {result : ActionResult} {results : List ActionResult}
    (hstep : (d.step event position a).run calls = ⟨.ok result, after, notes⟩)
    (hrest : (d.dispatchFrom event (position + 1) rest).run after = ⟨.ok results, final, more⟩) :
    (d.dispatchFrom event position (a :: rest)).run calls
      = ⟨.ok (result :: results), final, notes ++ more⟩ := by
  rw [← List.append_nil more]
  exact Attempt.run_bind_of_run hstep (Attempt.run_bind_of_run hrest (Attempt.run_pure _ _))

theorem run_runAll_cons {started : List (Handler × Action)} {reply : Reply}
    {replies : List Reply}
    (hfirst : (handler.execute a.parameters event).run calls = ⟨.ok reply, after, notes⟩)
    (hrest : (runAll event started).run after = ⟨.ok replies, final, more⟩) :
    (runAll event ((handler, a) :: started)).run calls
      = ⟨.ok (reply :: replies), final, notes ++ more⟩ := by
  rw [runAll, List.mapM_cons, ← List.append_nil more]
  exact Attempt.run_bind_of_run hfirst (Attempt.run_bind_of_run hrest (Attempt.run_pure _ _))

end Run

theorem exists_run_dispatchFrom (hfree : d.interrupted = false) (husual : d.timeout.IsSpan)
    {actions : List Action} (hkinds : ∀ a ∈ actions, a.kind.isKey = true)
    (htimes : ∀ a ∈ actions, a.timeout = .null ∨ a.timeout.IsSpan) (event : Event)
    (position : ℕ) (calls : List Call) :
    ∃ results replies notes,
      (d.dispatchFrom event position actions).run calls
        = ⟨.ok results, calls ++ hostCalls event (d.started event actions), notes⟩ ∧
      (runAll event (d.started event actions)).run calls
        = ⟨.ok replies, calls ++ hostCalls event (d.started event actions),
          notes.filter (·.writer = .handlers)⟩ ∧
      results.map ActionResult.kind = actions.map Action.kind ∧
      results.map ActionResult.error? = d.errors event actions replies := by
  induction actions generalizing position calls with
  | nil =>
      refine ⟨[], [], [], ?_, ?_, rfl, rfl⟩
      · simp [dispatchFrom, hostCalls, started]
      · simp [runAll, hostCalls, started]
  | cons a rest ih =>
      have ha := hkinds a List.mem_cons_self
      have htime := htimes a List.mem_cons_self
      have ih := ih (fun a ha => hkinds a (List.mem_cons_of_mem _ ha))
        (fun a ha => htimes a (List.mem_cons_of_mem _ ha)) (position + 1)
      cases hstarts : d.starts? event a with
      | none =>
          have hstarted : d.started event (a :: rest) = d.started event rest := by
            simp [started, hstarts]
          obtain ⟨verdict, hexecute, herror⟩ :=
            run_execute_of_not_starts hfree ha htime husual hstarts calls
          obtain ⟨level, text, hstep⟩ := exists_run_step hexecute position
          obtain ⟨results, replies, notes, hrest, hreplies, hkindsRest, herrors⟩ := ih calls
          rw [hstarted]
          refine ⟨_, replies, _, run_dispatchFrom_cons hstep hrest, ?_, ?_, ?_⟩
          · rw [hreplies, List.nil_append, List.singleton_append, List.filter_cons_of_neg (by simp)]
          · rw [List.map_cons, List.map_cons, hkindsRest]
          · rw [List.map_cons, herror, herrors, errors, hstarts]
            rfl
      | some handler =>
          have hstarted : d.started event (a :: rest) = (handler, a) :: d.started event rest := by
            simp [started, hstarts]
          obtain ⟨reply, before, hhandler, hwriter⟩ :=
            handler.exists_run_execute a.parameters event calls
          obtain ⟨verdict, hexecute, herror⟩ :=
            run_execute_of_starts hfree ha htime husual hstarts hhandler
          obtain ⟨level, text, hstep⟩ := exists_run_step hexecute position
          obtain ⟨results, replies, notes, hrest, hreplies, hkindsRest, herrors⟩ :=
            ih (calls ++ (handler.call? a.parameters event).toList)
          have hcalls : hostCalls event (d.started event (a :: rest))
              = (handler.call? a.parameters event).toList
                ++ hostCalls event (d.started event rest) := by
            rw [hstarted, hostCalls, hostCalls]
            cases hcall : handler.call? a.parameters event <;> simp [hcall]
          have hbefore : before.filter (·.writer = .handlers) = before :=
            List.filter_eq_self.mpr (by simpa using hwriter)
          rw [hcalls, ← List.append_assoc, hstarted]
          refine ⟨_, reply :: replies, _, run_dispatchFrom_cons hstep hrest, ?_, ?_, ?_⟩
          · rw [run_runAll_cons hhandler hreplies, List.filter_append, List.filter_append, hbefore]
            simp
          · rw [List.map_cons, List.map_cons, hkindsRest]
          · rw [List.map_cons, herror, herrors, errors, hstarts]
            rfl

section Chains

/-- A host that refuses the first call. -/
def tagger : Handler :=
  ⟨.text "add_tag", .host "add_tag" fun calls _ =>
    if calls.isEmpty then .raised "ValueError" "no tag" else .done⟩

def tagging : Dispatcher := ⟨⟨[(.text "add_tag", tagger)]⟩, .int 30, false⟩

def tag (timeout : Value) : Action := ⟨.text "add_tag", .object [("tag", .text "urgent")], timeout⟩

/-- Actions of which the second has no handler and the third no time. -/
def mixedActions : List Action :=
  [tag .null, ⟨.text "archive", .object [], .null⟩, tag (.int (-1)), tag (.int 5)]

theorem isSpan_thirty : tagging.timeout.IsSpan := .int (d := Double.ofNat 30) (by decide +kernel)

end Chains

end Dispatcher

end CaseWorkflow
