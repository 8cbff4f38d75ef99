import CaseWorkflow.Proofs.Condition.Meaning
import CaseWorkflow.Proofs.Registry.Isolation

/-!
# The order of conditions

Evaluation stops at the first condition that does not hold, so that the order of the conditions
decides whether an error comes up.  It does not decide whether a workflow fires, and with it
neither what its actions do nor what is counted.
-/

namespace CaseWorkflow

/-! ## Conditions in another order -/

namespace Condition

variable {conditions others : List Condition} {data : Entries}

/-- A row of conditions holds if each of them does. -/
theorem evaluateAll_eq_true_iff :
    evaluateAll conditions data = .ok true ↔ ∀ c ∈ conditions, c.evaluate data = .ok true := by
  rcases all_hold_or_first conditions data with hall | ⟨before, c, rest, rfl, hbefore, hc⟩
  · have hrow := evaluateAll_append hall []
    rw [List.append_nil] at hrow
    exact ⟨fun _ => hall, fun _ => hrow⟩
  · rw [evaluateAll_append hbefore, evaluateAll]
    constructor
    · intro hrow
      cases heval : c.evaluate data with
      | error undecided =>
          rw [heval] at hrow
          cases hrow
      | ok holds =>
          cases holds with
          | false =>
              rw [heval] at hrow
              cases hrow
          | true => exact absurd heval hc
    · exact fun hall => absurd (hall c (by simp)) hc

theorem evaluateAll_perm (h : conditions.Perm others) :
    evaluateAll conditions data = .ok true ↔ evaluateAll others data = .ok true := by
  simp only [evaluateAll_eq_true_iff, h.mem_iff]

/-- A row of conditions comes to a verdict if none of them raises an error. -/
theorem exists_evaluateAll (h : ∀ c ∈ conditions, ∃ holds, c.evaluate data = .ok holds) :
    ∃ holds, evaluateAll conditions data = .ok holds := by
  induction conditions with
  | nil => exact ⟨true, rfl⟩
  | cons c rest ih =>
      obtain ⟨⟨holds, heval⟩, hrest⟩ := List.forall_mem_cons.mp h
      cases holds with
      | false => exact ⟨false, evaluateAll_of_fails heval rest⟩
      | true =>
          rw [evaluateAll, heval]
          exact ih hrest

/-- Without errors the order of the conditions does not show at all. -/
theorem evaluateAll_perm_of_decided (h : conditions.Perm others)
    (hdecided : ∀ c ∈ conditions, ∃ holds, c.evaluate data = .ok holds) :
    evaluateAll conditions data = evaluateAll others data := by
  obtain ⟨holds, hconditions⟩ := exists_evaluateAll hdecided
  obtain ⟨otherwise, hothers⟩ : ∃ otherwise, evaluateAll others data = .ok otherwise :=
    exists_evaluateAll fun c hc => hdecided c (h.mem_iff.mpr hc)
  have hperm : evaluateAll conditions data = .ok true ↔ evaluateAll others data = .ok true :=
    evaluateAll_perm h
  rw [hconditions, hothers] at hperm ⊢
  simp only [Except.ok.injEq] at hperm ⊢
  exact Bool.eq_iff_iff.mpr hperm

/-- Only ordering operators raise errors. -/
theorem exists_evaluate {c : Condition} {operator : Operator} (hkey : c.field.isKey = true)
    (hknown : c.operator = .known operator) (hoperator : operator.isOrdering = false) :
    ∃ holds, c.evaluate data = .ok holds := by
  cases hactual : c.actual? data with
  | none => exact ⟨_, evaluate_of_absent hkey hactual⟩
  | some actual =>
      rw [evaluate_of_present hkey hactual, decideOn, hknown]
      cases operator with
      | eq | ne | contains | notContains => exact ⟨_, rfl⟩
      | gt | ge | lt | le => cases hoperator

end Condition

/-! ## Workflows with their conditions in another order -/

/-- The definition with other conditions in the place of those of its trigger. -/
def Definition.withConditions (d : Definition) (conditions : List Condition) : Definition :=
  { d with trigger := d.trigger.map fun trigger => { trigger with conditions } }

namespace Workflow

variable {w : Workflow} {conditions : List Condition} {event : Event}

theorem trigger_withConditions (w : Workflow) (conditions : List Condition) :
    (w.definition.withConditions conditions).trigger = some ⟨.known w.kind, conditions⟩ := by
  rw [Definition.withConditions, w.trigger_eq]
  rfl

/-- A sound definition stays sound when its conditions are put in another order. -/
theorem sound_withConditions (h : conditions.Perm w.conditions) :
    (w.definition.withConditions conditions).Sound := by
  have hnil := w.problems_eq_nil
  unfold Definition.Sound
  unfold Definition.problems at hnil ⊢
  simp only [List.append_eq_nil_iff, List.isEmpty_iff,
    Definition.triggerProblems_eq_nil_iff w.trigger_eq,
    Definition.triggerProblems_eq_nil_iff (w.trigger_withConditions conditions)] at hnil ⊢
  obtain ⟨⟨hhead, htrigger⟩, hactions⟩ := hnil
  exact ⟨⟨hhead, fun c hc => htrigger c (h.mem_iff.mp hc)⟩, hactions⟩

/-- The workflow with its conditions in another order. -/
def reordered (w : Workflow) (conditions : List Condition) (h : conditions.Perm w.conditions) :
    Workflow :=
  ⟨w.definition.withConditions conditions, sound_withConditions h⟩

variable (h : conditions.Perm w.conditions)

theorem trigger_reordered :
    some (⟨.known (w.reordered conditions h).kind, (w.reordered conditions h).conditions⟩ : Trigger)
      = some ⟨.known w.kind, conditions⟩ :=
  (w.reordered conditions h).trigger_eq.symm.trans (w.trigger_withConditions conditions)

theorem kind_reordered : (w.reordered conditions h).kind = w.kind := by
  have htrigger := trigger_reordered h
  injections

theorem conditions_reordered : (w.reordered conditions h).conditions = conditions := by
  have htrigger := trigger_reordered h
  injections

/-- A workflow fires whatever the order of its conditions. -/
theorem fires_reordered_iff :
    fires (w.reordered conditions h).kind (w.reordered conditions h).conditions event = .ok true ↔
      fires w.kind w.conditions event = .ok true := by
  rw [kind_reordered, conditions_reordered]
  unfold fires
  split
  · exact Condition.evaluateAll_perm h
  · rfl

/-- Without ordering operators matching comes to the same, whatever the order of the
conditions. -/
theorem fires_reordered
    (hplain : ∀ c ∈ w.conditions, ∀ operator, c.operator = .known operator →
      operator.isOrdering = false) :
    fires (w.reordered conditions h).kind (w.reordered conditions h).conditions event
      = fires w.kind w.conditions event := by
  rw [kind_reordered, conditions_reordered]
  unfold fires
  split
  · apply (Condition.evaluateAll_perm_of_decided h.symm fun c hc => _).symm
    intro c hc
    obtain ⟨hkey, operator, hoperator⟩ := w.condition_known hc
    exact Condition.exists_evaluate hkey hoperator (hplain c hc operator hoperator)
  · rfl

end Workflow

/-! ## What comes of an event -/

/-- What is found where a trigger does not match, or cannot be decided. -/
def Finding.missed : Except Undecided Bool → Finding
  | .error why =>
    match why.condition? with
    | some c => .undecided c why.message
    | none => .unmatched
  | .ok _ => .unmatched

theorem Finding.missed_eq (fired : Except Undecided Bool) :
    missed fired = .unmatched ∨ ∃ c message, missed fired = .undecided c message := by
  unfold missed
  split
  · split
    · exact .inr ⟨_, _, rfl⟩
    · exact .inl rfl
  · exact .inl rfl

theorem Finding.isMatched_missed (fired : Except Undecided Bool) :
    (missed fired).isMatched = false := by
  obtain hmissed | ⟨c, message, hmissed⟩ := missed_eq fired <;> rw [hmissed] <;> rfl

theorem Execution.results_missed (id : String) (fired : Except Undecided Bool) (now : Moment) :
    Execution.results ⟨id, .missed fired, now⟩ = [] := by
  obtain hmissed | ⟨c, message, hmissed⟩ := Finding.missed_eq fired <;> rw [hmissed] <;> rfl

namespace Instance

variable {d : Dispatcher} {event : Event} {i : Instance} {calls after : List Call}
  {results : List ActionResult}

/-- An instance whose trigger matches runs its actions. -/
theorem gives_react (hfires : fires i.workflow.kind i.workflow.conditions event = .ok true)
    (h : (d.dispatch i.workflow.actions event).Gives calls (.ok results) after) :
    (i.react d event).Gives calls (.ok (.matched results)) after := by
  unfold react
  rw [hfires]
  exact (Attempt.gives_note _ _ _ _).bind_ok (h.bind_ok (Attempt.gives_pure _ _))

/-- An instance whose trigger does not match, or cannot be decided, calls nobody. -/
theorem gives_react_missed
    (hfires : fires i.workflow.kind i.workflow.conditions event ≠ .ok true) (calls : List Call) :
    (i.react d event).Gives calls
      (.ok (.missed (fires i.workflow.kind i.workflow.conditions event))) calls := by
  unfold react
  cases hdecided : fires i.workflow.kind i.workflow.conditions event with
  | ok fired =>
      cases fired with
      | true => exact absurd hdecided hfires
      | false => exact (Attempt.gives_note _ _ _ _).bind_ok (Attempt.gives_pure _ _)
  | error undecided =>
      obtain ⟨c, -, hcondition⟩ := Workflow.fires_error hdecided
      simp only [Finding.missed, hcondition]
      exact (Attempt.gives_note _ _ _ _).bind_ok (Attempt.gives_pure _ _)

end Instance

namespace Desk

variable {desk : Desk} {clock : Clock} {now : Moment} {event : Event} {i : Instance}
  {finding : Finding} {calls : List Call}

/-- An instance that stands alone is run on an event. -/
theorem gives_execute_only (hclock : clock.moment = .ok now)
    (h : (i.react desk.registry.dispatcher event).Gives desk.calls (.ok finding) calls) :
    (execute clock event i).Gives (desk.only i) (.ok ⟨i.id, finding, now⟩)
      { desk.only (if finding.isMatched then i.counted.stamped now else i) with calls } := by
  unfold execute
  apply (Attempt.gives_get (desk.only i)).bind_ok
  have hreact : (Attempt.on Desk.calls (fun calls desk => { desk with calls })
      (i.react desk.registry.dispatcher event)).Gives (desk.only i) (.ok finding)
        { desk.only i with calls } := Attempt.Gives.on (s := desk.only i) h
  apply hreact.bind_ok
  cases hmatched : finding.isMatched with
  | false => exact (gives_moment hclock _).bind_ok (Attempt.gives_pure _ _)
  | true =>
      apply (Attempt.gives_modify _ _).bind_ok
      apply (gives_moment hclock _).bind_ok
      apply Attempt.Gives.bind_ok (Attempt.gives_modify _ _)
      have halone : (((desk.only i).registry.replace i.counted).replace (i.counted.stamped now))
          = (desk.only (i.counted.stamped now)).registry := by
        rw [Registry.replace_replace (i := i.counted) (j := i.counted.stamped now) rfl]
        simp [Registry.replace, only, withRegistry, Instance.counted, Instance.stamped]
      refine ⟨rfl, ?_⟩
      simp only [Attempt.run_pure, withRegistry, halone]
      rfl

/-- The order of the conditions decides neither whether a new instance fires on an event nor what
its actions come to, whom they call and what is counted.  What it may decide is how a miss is
reported, and that only where a condition has an ordering operator. -/
theorem reordered_fires_alike (w : Workflow) {conditions : List Condition}
    (h : conditions.Perm w.conditions) (desk : Desk) (event : Event) {clock clock' : Clock}
    {now now' : Moment} (hclock : clock.moment = .ok now) (hclock' : clock'.moment = .ok now')
    (id id' : String) (created created' : Moment) :
    ∃ e e' i i' calls,
      (execute clock event (.create id w created)).Gives (desk.only (.create id w created))
          (.ok e) { desk.only i with calls } ∧
        (execute clock' event (.create id' (w.reordered conditions h) created')).Gives
          (desk.only (.create id' (w.reordered conditions h) created'))
          (.ok e') { desk.only i' with calls } ∧
        e.matched = e'.matched ∧ e.results = e'.results ∧ i.executions = i'.executions ∧
        (e.finding = e'.finding ∨ e.matched = false) ∧
        ((∀ c ∈ w.conditions, ∀ operator, c.operator = .known operator →
          operator.isOrdering = false) → e.finding = e'.finding) := by
  by_cases hfires : fires w.kind w.conditions event = .ok true
  · obtain ⟨results, hresults, -⟩ := Dispatcher.succeeds_dispatchFrom
      (d := desk.registry.dispatcher) rfl (fun a ha => w.action_isKey ha) event 0 desk.calls
    have hdispatch : (desk.registry.dispatcher.dispatch w.actions event).Gives desk.calls
        (.ok results) _ := ⟨hresults, rfl⟩
    refine ⟨_, _, _, _, _, gives_execute_only hclock (Instance.gives_react hfires hdispatch),
      gives_execute_only hclock'
        (Instance.gives_react ((Workflow.fires_reordered_iff h).mpr hfires) hdispatch), ?_⟩
    exact ⟨rfl, rfl, rfl, .inl rfl, fun _ => rfl⟩
  · have hreordered := mt (Workflow.fires_reordered_iff h).mp hfires
    refine ⟨_, _, _, _, _, gives_execute_only hclock (Instance.gives_react_missed hfires _),
      gives_execute_only hclock' (Instance.gives_react_missed hreordered _), ?_⟩
    have hmatched := Finding.isMatched_missed (fires w.kind w.conditions event)
    refine ⟨hmatched.trans (Finding.isMatched_missed _).symm,
      (Execution.results_missed _ _ _).trans (Execution.results_missed _ _ _).symm, ?_,
      .inr hmatched, fun hplain => ?_⟩
    · simp [Finding.isMatched_missed, Instance.create]
    · exact congrArg Finding.missed (Workflow.fires_reordered h hplain).symm

/-- A condition that fails hides the error of one behind it. -/
example :
    (fires Workflow.deadlineWarning.kind Workflow.deadlineWarning.conditions
        Workflow.undatedEvent).toOption = none ∧
      fires Workflow.deadlineWarning.kind Workflow.deadlineWarning.conditions.reverse
        Workflow.undatedEvent = .ok false :=
  ⟨rfl, rfl⟩

/-- A workflow that tags the appeals outside of one court. -/
def appealTag : Workflow where
  definition :=
    { id := .text "recurso"
      name := .text "Recursos"
      description := .text ""
      trigger := some ⟨.known .deadlineApproaching,
        [.asking "tribunal" .ne (.text "TRF1"), .asking "fase" .eq (.text "recurso")]⟩
      actions := [⟨.text "adicionar_tag", .object [("tag", .text "recurso")], .null⟩] }
  sound := by decide

/-- The deadline of an appeal, whose court is not told. -/
def appealEvent : Event := { deadlineEvent with entity := [("fase", .text "recurso")] }

theorem reordered_fires_alike_appeal :
    ∃ now, firstClock.moment = .ok now ∧ appealTag.conditions.reverse.Perm appealTag.conditions ∧
      (∀ c ∈ appealTag.conditions, ∀ operator, c.operator = .known operator →
        operator.isOrdering = false) ∧
      ∃ (h : appealTag.conditions.reverse.Perm appealTag.conditions) (e e' : Execution)
        (i i' : Instance) (calls : List Call),
        (execute firstClock appealEvent (.create "id-1" appealTag now)).Gives
            ((opened troubledHandlers (.int 1) none).only (.create "id-1" appealTag now))
            (.ok e) { (opened troubledHandlers (.int 1) none).only i with calls } ∧
          (execute firstClock appealEvent (.create "id-2" (appealTag.reordered _ h) now)).Gives
            ((opened troubledHandlers (.int 1) none).only
              (.create "id-2" (appealTag.reordered _ h) now))
            (.ok e') { (opened troubledHandlers (.int 1) none).only i' with calls } ∧
          e.finding = e'.finding ∧ i.executions = i'.executions := by
  obtain ⟨now, hnow⟩ := exists_moment_firstClock
  have hperm : appealTag.conditions.reverse.Perm appealTag.conditions := List.reverse_perm _
  have hplain : ∀ c ∈ appealTag.conditions, ∀ operator, c.operator = .known operator →
      operator.isOrdering = false := by
    have hconditions : appealTag.conditions =
        [.asking "tribunal" .ne (.text "TRF1"), .asking "fase" .eq (.text "recurso")] := rfl
    rw [hconditions]
    simp only [List.forall_mem_cons, List.not_mem_nil, false_imp_iff, implies_true, and_true]
    constructor <;> rintro operator ⟨⟩ <;> rfl
  obtain ⟨e, e', i, i', calls, hgives, hgives', -, -, hexecutions, -, hfinding⟩ :=
    reordered_fires_alike appealTag hperm (opened troubledHandlers (.int 1) none) appealEvent
      hnow hnow "id-1" "id-2" now now
  exact ⟨now, hnow, hperm, hplain, hperm, e, e', i, i', calls, hgives, hgives', hfinding hplain,
    hexecutions⟩

end Desk

end CaseWorkflow
