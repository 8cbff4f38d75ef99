import CaseWorkflow.Proofs.Registry.Reaction

/-!
# Whether an instance matches an event

What the handlers of an instance answer has no part in whether its trigger matches, and
cannot keep it from coming to a result.
-/

namespace CaseWorkflow

/-- Whether the trigger of the workflow matches. -/
def Workflow.firesOn (w : Workflow) (event : Event) : Bool :=
  match fires w.kind w.conditions event with
  | .ok fired => fired
  | .error _ => false

theorem Handler.succeeds_execute (handler : Handler) (parameters : Value) (event : Event) :
    (handler.execute parameters event).Succeeds fun _ => True := by
  unfold execute
  cases handler.conduct with
  | host capability respond => exact fun history => ⟨_, rfl, trivial⟩
  | logging outlet =>
      dsimp only
      cases renderParameters (parameters.entries?.getD []) event with
      | error obstacle => exact Attempt.succeeds_pure trivial
      | ok rendered =>
          dsimp only
          unfold noteBy
          cases outlet with
          | level level =>
              exact (Attempt.succeeds_note _ _ _).bind fun _ _ => Attempt.succeeds_pure trivial
          | silent | levelNames | records | closed => exact Attempt.succeeds_pure trivial

namespace Dispatcher

variable {d : Dispatcher}

theorem succeeds_execute (hfree : d.interrupted = false) {a : Action} (ha : a.kind.isKey = true)
    (event : Event) : (d.execute a event).Succeeds fun _ => True := by
  unfold execute Handlers.find?
  rw [if_pos ha]
  apply (Attempt.succeeds_ofExcept (P := fun _ => True) trivial).bind
  rintro (_ | handler) -
  · exact Attempt.succeeds_pure trivial
  dsimp only
  split
  next => exact Attempt.succeeds_pure trivial
  next => exact Attempt.succeeds_pure trivial
  next =>
    apply (handler.succeeds_execute a.parameters event).bind
    intro reply _
    simp only [hfree, Bool.false_and, Bool.false_eq_true, if_false]
    exact Attempt.succeeds_pure trivial

theorem succeeds_step (hfree : d.interrupted = false) {a : Action} (ha : a.kind.isKey = true)
    (event : Event) (position : ℕ) :
    (d.step event position a).Succeeds fun result => result.kind = a.kind := by
  unfold step
  apply (succeeds_execute hfree ha event).bind
  intro verdict _
  dsimp only
  split
  next => exact (Attempt.succeeds_note _ _ _).bind fun _ _ => Attempt.succeeds_pure rfl
  next => exact (Attempt.succeeds_note _ _ _).bind fun _ _ => Attempt.succeeds_pure rfl

/-- Each action comes to a result, whatever the handlers do. -/
theorem succeeds_dispatchFrom (hfree : d.interrupted = false) {actions : List Action}
    (hactions : ∀ a ∈ actions, a.kind.isKey = true) (event : Event) (position : ℕ) :
    (d.dispatchFrom event position actions).Succeeds fun results =>
      results.map ActionResult.kind = actions.map Action.kind := by
  induction actions generalizing position with
  | nil => exact Attempt.succeeds_pure rfl
  | cons a rest ih =>
      apply (succeeds_step hfree (hactions a List.mem_cons_self) event position).bind
      intro result hresult
      apply (ih (fun a' ha' => hactions a' (List.mem_cons_of_mem a ha')) (position + 1)).bind
      intro results hresults
      exact Attempt.succeeds_pure (by rw [List.map_cons, List.map_cons, hresult, hresults])

end Dispatcher

namespace Instance

def firesOn (event : Event) (i : Instance) : Bool := i.workflow.firesOn event

theorem succeeds_react {d : Dispatcher} (hfree : d.interrupted = false) (event : Event)
    (i : Instance) :
    (i.react d event).Succeeds fun finding =>
      finding.isMatched = i.firesOn event ∧ finding.Suits i.workflow := by
  unfold react firesOn Workflow.firesOn
  cases hfires : fires i.workflow.kind i.workflow.conditions event with
  | error undecided =>
      obtain ⟨c, hc, hcondition⟩ := Workflow.fires_error hfires
      simp only [hcondition]
      exact (Attempt.succeeds_note _ _ _).bind fun _ _ => Attempt.succeeds_pure ⟨rfl, hc⟩
  | ok fired =>
      cases fired with
      | false =>
          exact (Attempt.succeeds_note _ _ _).bind fun _ _ => Attempt.succeeds_pure ⟨rfl, trivial⟩
      | true =>
          apply (Attempt.succeeds_note _ _ _).bind
          intro _ _
          apply (Dispatcher.succeeds_dispatchFrom hfree
            (fun a ha => i.workflow.action_isKey ha) event 0).bind
          exact fun results hresults => Attempt.succeeds_pure ⟨rfl, hresults⟩

/-- The instance after it was run on an event. -/
def noted (event : Event) (now : Moment) (i : Instance) : Instance :=
  if i.firesOn event then i.counted.stamped now else i

/-- The instance after an event was handled: paused ones are left as they are. -/
def handled (event : Event) (now : Moment) (i : Instance) : Instance :=
  if i.isActive then i.noted event now else i

@[simp] theorem handled_id (event : Event) (now : Moment) (i : Instance) :
    (i.handled event now).id = i.id := by
  unfold handled noted
  split_ifs <;> rfl

@[simp] theorem handled_workflow (event : Event) (now : Moment) (i : Instance) :
    (i.handled event now).workflow = i.workflow := by
  unfold handled noted
  split_ifs <;> rfl

@[simp] theorem handled_status (event : Event) (now : Moment) (i : Instance) :
    (i.handled event now).status = i.status := by
  unfold handled noted
  split_ifs <;> rfl

end Instance

end CaseWorkflow
