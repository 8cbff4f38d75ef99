import CaseWorkflow.Proofs.Attempt
import CaseWorkflow.Registry.Desk

/-!
# What an instance makes of an event

A sound workflow can be run on any event: each of its conditions is decided or named as the
one that cannot be, and each of its actions has a kind that handlers are looked up by.  With
handlers that answer a call in one way, whatever was called before, an instance makes the
same of an event at any time.
-/

namespace CaseWorkflow

/-- A condition is in order if its field says something and its operator is known. -/
theorem Condition.problems_eq_nil_iff {c : Condition} {position : ℕ} :
    c.problems position = [] ↔
      c.field.isBlank = false ∧ ∃ operator, c.operator = .known operator := by
  unfold problems
  cases c.operator with
  | known operator => simp
  | other v => simp

theorem Definition.triggerProblems_eq_nil_iff {d : Definition} {kind : TriggerKind}
    {conditions : List Condition} (h : d.trigger = some ⟨.known kind, conditions⟩) :
    d.triggerProblems = [] ↔ ∀ c ∈ conditions,
      c.field.isBlank = false ∧ ∃ operator, c.operator = .known operator := by
  unfold triggerProblems
  rw [h]
  simp only [List.flatten_eq_nil_iff, List.forall_mem_iff_getElem, List.length_mapIdx,
    List.getElem_mapIdx, Condition.problems_eq_nil_iff]

namespace Workflow

variable {w : Workflow}

theorem trigger_eq (w : Workflow) :
    w.definition.trigger = some ⟨.known w.kind, w.conditions⟩ := by
  unfold kind conditions trigger
  split
  next kind conditions heq => exact heq
  next v conditions heq => exact absurd w.sound.exists_trigger (by simp [heq])
  next heq => exact absurd w.sound.exists_trigger (by simp [heq])

theorem problems_eq_nil (w : Workflow) : w.definition.problems = [] :=
  List.isEmpty_iff.mp w.sound

theorem isKey_of_not_isBlank {v : Value} (h : v.isBlank = false) : v.isKey = true := by
  cases v with
  | list | object => cases h
  | _ => rfl

/-- The kind of each action can be looked up. -/
theorem action_isKey {a : Action} (ha : a ∈ w.actions) : a.kind.isKey = true := by
  change a ∈ w.definition.actions at ha
  have hactions := (List.append_eq_nil_iff.mp w.problems_eq_nil).2
  have hnone := List.flatten_eq_nil_iff.mp (List.append_eq_nil_iff.mp hactions).2
  obtain ⟨position, hposition, rfl⟩ := List.mem_iff_getElem.mp ha
  have hnone := hnone _ (List.mem_mapIdx.mpr ⟨position, hposition, rfl⟩)
  apply isKey_of_not_isBlank
  by_contra hblank
  rw [Bool.not_eq_false] at hblank
  change (Action.problems w.definition.actions[position]).map _ = [] at hnone
  rw [List.map_eq_nil_iff, Action.problems] at hnone
  rw [if_pos hblank] at hnone
  cases hnone

/-- Each condition has a field that can be looked up and a known operator. -/
theorem condition_known {c : Condition} (hc : c ∈ w.conditions) :
    c.field.isKey = true ∧ ∃ operator, c.operator = .known operator := by
  have hhead := (List.append_eq_nil_iff.mp w.problems_eq_nil).1
  have htrigger := (List.append_eq_nil_iff.mp hhead).2
  rw [Definition.triggerProblems_eq_nil_iff w.trigger_eq] at htrigger
  obtain ⟨hfield, hoperator⟩ := htrigger c hc
  exact ⟨isKey_of_not_isBlank hfield, hoperator⟩

end Workflow

/-! ## Conditions -/

namespace Condition

variable {c : Condition} {data : Entries} {undecided : Undecided}

theorem compareWith_error {operator : Operator} {actual : Value}
    (h : c.compareWith operator actual = .error undecided) : undecided.condition? = some c := by
  unfold compareWith at h
  split at h
  next => cases h
  next =>
    split at h
    next =>
      split at h
      next => cases h
      next =>
        obtain rfl := Except.error.inj h
        rfl
    next =>
      obtain rfl := Except.error.inj h
      rfl

/-- A condition that can be looked up is named when it cannot be evaluated. -/
theorem evaluate_error (hfield : c.field.isKey = true)
    (hoperator : ∃ operator, c.operator = .known operator)
    (h : c.evaluate data = .error undecided) : undecided.condition? = some c := by
  obtain ⟨operator, hoperator⟩ := hoperator
  rw [evaluate, hfield] at h
  simp only [Bool.not_true, Bool.false_eq_true, if_false] at h
  split at h
  next actual _ =>
    rw [decideOn, hoperator] at h
    cases operator with
    | eq | ne | contains | notContains => cases h
    | gt | ge | lt | le => exact compareWith_error h
  next => cases h

theorem evaluateAll_error {conditions : List Condition}
    (hknown : ∀ c ∈ conditions, c.field.isKey = true ∧ ∃ operator, c.operator = .known operator)
    (h : evaluateAll conditions data = .error undecided) :
    ∃ c ∈ conditions, undecided.condition? = some c := by
  induction conditions with
  | nil => cases h
  | cons c rest ih =>
      obtain ⟨hfield, hoperator⟩ := hknown c List.mem_cons_self
      rw [evaluateAll] at h
      cases heval : c.evaluate data with
      | error other =>
          rw [heval] at h
          obtain rfl := Except.error.inj h
          exact ⟨c, List.mem_cons_self, evaluate_error hfield hoperator heval⟩
      | ok holds =>
          rw [heval] at h
          cases holds with
          | false => cases h
          | true =>
              obtain ⟨c', hc', heq⟩ := ih (fun c' hc' => hknown c' (List.mem_cons_of_mem c hc')) h
              exact ⟨c', List.mem_cons_of_mem c hc', heq⟩

end Condition

/-- A workflow whose trigger cannot be decided names the condition. -/
theorem Workflow.fires_error {w : Workflow} {event : Event} {undecided : Undecided}
    (h : fires w.kind w.conditions event = .error undecided) :
    ∃ c ∈ w.conditions, undecided.condition? = some c := by
  unfold fires at h
  split at h
  next => exact Condition.evaluateAll_error (fun c hc => w.condition_known hc) h
  next => cases h

/-! ## Actions -/

/-- The handler answers a call in one way, whatever was called before. -/
def Handler.Steady (handler : Handler) : Prop :=
  ∀ capability respond, handler.conduct = .host capability respond →
    ∀ history call, respond history call = respond [] call

def Handlers.Steady (handlers : Handlers) : Prop := ∀ entry ∈ handlers.table, entry.2.Steady

theorem Handlers.mem_insertInto {handler : Handler} {table : List (Value × Handler)}
    {entry : Value × Handler} (h : entry ∈ insertInto handler table) :
    entry.2 = handler ∨ entry ∈ table := by
  induction table with
  | nil =>
      obtain rfl := List.mem_singleton.mp h
      exact .inl rfl
  | cons other rest ih =>
      rw [insertInto] at h
      split at h
      next =>
        rcases List.mem_cons.mp h with rfl | hmem
        · exact .inl rfl
        · exact .inr (List.mem_cons_of_mem other hmem)
      next =>
        rcases List.mem_cons.mp h with rfl | hmem
        · exact .inr List.mem_cons_self
        · exact (ih hmem).imp_right (List.mem_cons_of_mem other)

theorem Handlers.Steady.insert {handlers : Handlers} {handler : Handler} (h : handlers.Steady)
    (hhandler : handler.Steady) : (handlers.insert handler).Steady := by
  intro entry hentry
  rcases mem_insertInto hentry with heq | hmem
  · exact heq ▸ hhandler
  · exact h entry hmem

theorem Handlers.steady_empty : Handlers.empty.Steady := fun _ hentry => by cases hentry

/-- A capability that answers every call alike. -/
theorem Handler.steady_constant (kind : Value) (capability : String) (reply : Reply) :
    Handler.Steady ⟨kind, .host capability fun _ _ => reply⟩ := by
  rintro _ _ ⟨⟩ _ _
  rfl

namespace Dispatcher

variable {d : Dispatcher}

theorem exists_steady_reply {handler : Handler} (h : handler.Steady) (parameters : Value)
    (event : Event) : ∃ reply, (handler.execute parameters event).Steady reply := by
  unfold Handler.execute
  cases hconduct : handler.conduct with
  | host capability respond =>
      refine ⟨respond [] ⟨capability, parameters, event⟩, fun history => ?_⟩
      exact congrArg Except.ok (h capability respond hconduct history _)
  | logging outlet =>
      dsimp only
      cases Handler.renderParameters (parameters.entries?.getD []) event with
      | error obstacle => exact ⟨_, Attempt.steady_pure _⟩
      | ok rendered =>
          dsimp only
          unfold Handler.noteBy
          cases outlet with
          | level level =>
              exact ⟨.done, (Attempt.steady_note _ _ _).bind (Attempt.steady_pure _)⟩
          | silent | levelNames | records | closed => exact ⟨_, Attempt.steady_pure _⟩

theorem exists_steady_verdict (hsteady : d.handlers.Steady) (hfree : d.interrupted = false)
    {a : Action} (ha : a.kind.isKey = true) (event : Event) :
    ∃ verdict, (d.execute a event).Steady verdict := by
  unfold execute Handlers.find?
  rw [if_pos ha]
  cases hfind : (d.handlers.table.find? fun entry => entry.1.same a.kind) with
  | none => exact ⟨.noHandler, (Attempt.steady_ofExcept _).bind (Attempt.steady_pure _)⟩
  | some entry =>
      have hentry := hsteady entry (List.mem_of_find?_eq_some hfind)
      cases hstart : a.start event d.timeout with
      | expired =>
          refine ⟨.timedOut (a.budget d.timeout), (Attempt.steady_ofExcept _).bind ?_⟩
          simp only [Option.map_some]
          exact Attempt.steady_pure _
      | refused reason =>
          refine ⟨.failed reason, (Attempt.steady_ofExcept _).bind ?_⟩
          simp only [Option.map_some]
          exact Attempt.steady_pure _
      | begins =>
          obtain ⟨reply, hreply⟩ := exists_steady_reply hentry a.parameters event
          refine ⟨.ofReply (a.budget d.timeout) reply, (Attempt.steady_ofExcept _).bind ?_⟩
          simp only [Option.map_some]
          apply hreply.bind
          simp only [hfree, Bool.false_and, Bool.false_eq_true, if_false]
          exact Attempt.steady_pure _

theorem exists_steady_result (hsteady : d.handlers.Steady) (hfree : d.interrupted = false)
    {a : Action} (ha : a.kind.isKey = true) (event : Event) (position : ℕ) :
    ∃ result : ActionResult, result.kind = a.kind ∧ (d.step event position a).Steady result := by
  obtain ⟨verdict, hverdict⟩ := exists_steady_verdict hsteady hfree ha event
  refine ⟨⟨a.kind, verdict⟩, rfl, ?_⟩
  unfold step
  apply hverdict.bind
  dsimp only
  split
  next => exact (Attempt.steady_note _ _ _).bind (Attempt.steady_pure _)
  next => exact (Attempt.steady_note _ _ _).bind (Attempt.steady_pure _)

/-- Each action has its result. -/
theorem exists_steady_results (hsteady : d.handlers.Steady) (hfree : d.interrupted = false)
    {actions : List Action} (hactions : ∀ a ∈ actions, a.kind.isKey = true) (event : Event)
    (position : ℕ) :
    ∃ results : List ActionResult, results.map ActionResult.kind = actions.map Action.kind ∧
      (d.dispatchFrom event position actions).Steady results := by
  induction actions generalizing position with
  | nil => exact ⟨[], rfl, Attempt.steady_pure _⟩
  | cons a rest ih =>
      obtain ⟨result, hkind, hresult⟩ :=
        exists_steady_result hsteady hfree (hactions a List.mem_cons_self) event position
      obtain ⟨results, hkinds, hresults⟩ :=
        ih (fun a' ha' => hactions a' (List.mem_cons_of_mem a ha')) (position + 1)
      refine ⟨result :: results, by rw [List.map_cons, List.map_cons, hkind, hkinds], ?_⟩
      exact hresult.bind (hresults.bind (Attempt.steady_pure _))

end Dispatcher

/-! ## Instances -/

/-- What can be found for a workflow: one of its conditions that cannot be evaluated, or a
result for each of its actions. -/
def Finding.Suits (w : Workflow) : Finding → Prop
  | .undecided c _ => c ∈ w.conditions
  | .unmatched => True
  | .matched results => results.map ActionResult.kind = w.actions.map Action.kind

namespace Instance

variable {d : Dispatcher}

theorem exists_finding (hsteady : d.handlers.Steady) (hfree : d.interrupted = false)
    (event : Event) (i : Instance) :
    ∃ finding, (i.react d event).Steady finding ∧ finding.Suits i.workflow := by
  unfold react
  cases hfires : fires i.workflow.kind i.workflow.conditions event with
  | error undecided =>
      obtain ⟨c, hc, hcondition⟩ := Workflow.fires_error hfires
      refine ⟨.undecided c undecided.message, ?_, hc⟩
      simp only [hcondition]
      exact (Attempt.steady_note _ _ _).bind (Attempt.steady_pure _)
  | ok fired =>
      cases fired with
      | false =>
          exact ⟨.unmatched, (Attempt.steady_note _ _ _).bind (Attempt.steady_pure _), trivial⟩
      | true =>
          obtain ⟨results, hkinds, hresults⟩ := Dispatcher.exists_steady_results hsteady hfree
            (fun a ha => i.workflow.action_isKey ha) event 0
          refine ⟨.matched results, ?_, hkinds⟩
          exact (Attempt.steady_note _ _ _).bind (hresults.bind (Attempt.steady_pure _))

/-- What an instance makes of an event when nothing was called before. -/
def found (d : Dispatcher) (event : Event) (i : Instance) : Finding :=
  ((i.react d event).run []).result.toOption.getD .unmatched

/-- The instance makes the same of the event whatever was called before. -/
theorem steady_found (hsteady : d.handlers.Steady) (hfree : d.interrupted = false)
    (event : Event) (i : Instance) :
    (i.react d event).Steady (i.found d event) ∧ (i.found d event).Suits i.workflow := by
  obtain ⟨finding, hfinding, hsuits⟩ := exists_finding hsteady hfree event i
  have hfound : i.found d event = finding := by
    rw [found, hfinding []]
    rfl
  rw [hfound]
  exact ⟨hfinding, hsuits⟩

/-- The instance after it was run on an event. -/
def executed (d : Dispatcher) (event : Event) (now : Moment) (i : Instance) : Instance :=
  if (i.found d event).isMatched then i.counted.stamped now else i

end Instance

end CaseWorkflow
