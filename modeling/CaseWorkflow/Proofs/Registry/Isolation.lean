import CaseWorkflow.Proofs.Registry.Handling
import CaseWorkflow.Proofs.Registry.Steps

/-!
# One workflow does not disturb another

A registry is worked with command by command; its handlers stay as they are and its instances
have distinct ids.  Whatever it has become, an event comes to the same for an instance whether
it stands with others or alone.
-/

namespace CaseWorkflow

namespace Desk

/-- What can be done with a registry.  Reading an event draws an id where it brings none. -/
inductive Command where
  | activate (clock : Clock) (d : Definition)
  | activateTemplate (clock : Clock) (id : Value)
  | toggle (id : Value)
  | remove (id : Value)
  | readEvent (clock : Clock) (v : Value)
  | handle (clock : Clock) (event : Event)

/-- The desk after a command, also if that ended with a fault. -/
def after (desk : Desk) : Command → Desk
  | .activate clock d => ((activate clock d).run desk).state
  | .activateTemplate clock id => ((activateTemplate clock id).run desk).state
  | .toggle id => ((toggle id).run desk).state
  | .remove id => ((remove id).run desk).state
  | .readEvent clock v => ((readEvent clock v).run desk).state
  | .handle clock event => ((handle clock event).run desk).state

/-- The desk after a row of commands. -/
def afterAll (desk : Desk) (commands : List Command) : Desk := commands.foldl after desk

/-- A desk with an empty registry. -/
def opened (handlers : Handlers) (timeout : Value) (catalog : Option Catalog) : Desk :=
  ⟨Registry.start handlers timeout catalog, 0, []⟩

/-! ## Ids -/

/-- The handlers are those of the start, and the instances have distinct ids that were given
out. -/
structure Kept (handlers : Handlers) (desk : Desk) : Prop where
  handlers : desk.registry.handlers = handlers
  distinct : (desk.registry.instances.map Instance.id).Nodup
  issued : ∀ id ∈ desk.registry.instances.map Instance.id, ∃ n ≤ desk.issued, id = s!"id-{n}"

variable {handlers : Handlers} {desk t : Desk}

theorem kept_opened (handlers : Handlers) (timeout : Value) (catalog : Option Catalog) :
    Kept handlers (opened handlers timeout catalog) :=
  ⟨rfl, List.nodup_nil, fun id hid => by simp [opened, Registry.start] at hid⟩

theorem Kept.given (h : Kept handlers desk) :
    desk.Given (desk.registry.instances.map Instance.id) :=
  ⟨h.distinct, h.issued⟩

theorem Kept.of_ids (h : Kept handlers desk)
    (hhandlers : t.registry.handlers = desk.registry.handlers)
    (hids : (t.registry.instances.map Instance.id).Sublist
      (desk.registry.instances.map Instance.id)) (hissued : desk.issued ≤ t.issued) :
    Kept handlers t := by
  have hgiven := h.given.sublist hids hissued
  exact ⟨hhandlers.trans h.handlers, hgiven.distinct, hgiven.issued⟩

theorem Kept.replace (h : Kept handlers desk) (i : Instance) :
    Kept handlers (desk.withRegistry (desk.registry.replace i)) := by
  refine h.of_ids rfl ?_ le_rfl
  change ((desk.registry.replace i).instances.map Instance.id).Sublist _
  rw [Registry.map_id_replace]

theorem Kept.erase (h : Kept handlers desk) (id : String) :
    Kept handlers (desk.withRegistry (desk.registry.erase id)) :=
  h.of_ids rfl (List.filter_sublist.map _) le_rfl

theorem Kept.kept (h : Kept handlers desk) (hregistry : t.registry = desk.registry)
    (hissued : desk.issued ≤ t.issued) : Kept handlers t := by
  apply h.of_ids _ _ hissued <;> rw [hregistry]

/-- The id that was drawn last has not been used. -/
theorem Kept.append (h : Kept handlers desk) {workflow : Workflow} {now : Moment}
    (hregistry : t.registry = desk.registry.append (.create desk.freshId workflow now))
    (hissued : t.issued = desk.issued + 1) : Kept handlers t := by
  have hids : t.registry.instances.map Instance.id
      = desk.registry.instances.map Instance.id ++ [desk.freshId] := by
    rw [hregistry]
    simp [Registry.append, Instance.create]
  have hgiven := h.given.concat hissued
  rw [← hids] at hgiven
  refine ⟨?_, hgiven.distinct, hgiven.issued⟩
  rw [hregistry]
  exact h.handlers

/-! ## Commands -/

theorem Kept.ends_moment (h : Kept handlers desk) (clock : Clock) :
    (moment clock).Ends desk fun _ t => Kept handlers t := (Attempt.gives_ofExcept _ desk).ends h

theorem Kept.ends_activate (h : Kept handlers desk) (clock : Clock) (d : Definition) :
    (activate clock d).Ends desk fun _ t => Kept handlers t := by
  apply (Desk.ends_activate clock d).mono
  rintro (fault | i) t ht
  · exact h.kept ht.1 ht.2
  · obtain ⟨workflow, now, -, rfl, hregistry, hissued⟩ := ht
    exact h.append hregistry hissued

theorem Kept.ends_activateTemplate (h : Kept handlers desk) (clock : Clock) (id : Value) :
    (activateTemplate clock id).Ends desk fun _ t => Kept handlers t := by
  apply (Desk.ends_activateTemplate clock id).mono
  rintro (fault | i) t ht
  · exact h.kept ht.1 ht.2
  · obtain ⟨template, -, workflow, now, -, rfl, hregistry, hissued⟩ := ht
    exact h.append hregistry hissued

theorem Kept.ends_toggle (h : Kept handlers desk) (id : Value) :
    (toggle id).Ends desk fun _ t => Kept handlers t := by
  apply (Desk.ends_toggle id).mono
  rintro (fault | answer) t ht
  · exact ht ▸ h
  · obtain ⟨i, -, -, status, -, rfl⟩ := ht
    exact h.replace _

theorem Kept.ends_remove (h : Kept handlers desk) (id : Value) :
    (remove id).Ends desk fun _ t => Kept handlers t := by
  apply (Desk.ends_remove id).mono
  rintro (fault | answer) t ht
  · exact ht ▸ h
  · obtain ⟨i, -, -, rfl⟩ := ht
    exact h.erase i.id

theorem Kept.numbered (h : Kept handlers desk) (draft : Event.Draft) :
    Kept handlers (desk.numbered draft) := by
  unfold Desk.numbered
  split
  · exact h
  · exact h.kept rfl (Nat.le_succ _)

theorem Kept.ends_readEvent (h : Kept handlers desk) (clock : Clock) (v : Value) :
    (readEvent clock v).Ends desk fun _ t => Kept handlers t := by
  cases hread : Event.Draft.read v with
  | error problem =>
      unfold readEvent
      rw [hread]
      exact (Attempt.gives_fail _ desk).ends h
  | ok draft => exact (gives_readEvent hread clock desk).ends (h.numbered draft)

theorem Kept.ends_execute (h : Kept handlers desk) (clock : Clock) (event : Event) (i : Instance) :
    (execute clock event i).Ends desk fun _ t => Kept handlers t := by
  have hreplace : ∀ j t, Kept handlers t → (Desk.replace j).Ends t fun _ u => Kept handlers u :=
    fun j t ht => (Attempt.gives_modify _ t).ends (ht.replace j)
  unfold execute
  apply Attempt.Ends.bind_ok (Attempt.gives_get desk)
  have hreact : (Attempt.on Desk.calls (fun calls desk => { desk with calls })
      (i.react desk.registry.dispatcher event)).Ends desk fun _ t => Kept handlers t :=
    h.of_ids rfl (.refl _) le_rfl
  apply hreact.bind (fun _ _ ht => ht)
  intro finding t ht
  dsimp only
  cases finding.isMatched with
  | false =>
      apply (ht.ends_moment clock).bind (fun _ _ hu => hu)
      exact fun now u hu => (Attempt.gives_pure _ u).ends hu
  | true =>
      apply (hreplace _ t ht).bind (fun _ _ hu => hu)
      intro _ u hu
      apply (hu.ends_moment clock).bind (fun _ _ hw => hw)
      intro now w hw
      apply (hreplace _ w hw).bind (fun _ _ hx => hx)
      exact fun _ x hx => (Attempt.gives_pure _ x).ends hx

theorem Kept.ends_handle (h : Kept handlers desk) (clock : Clock) (event : Event) :
    (handle clock event).Ends desk fun _ t => Kept handlers t := by
  unfold handle
  apply Attempt.Ends.bind_ok (Attempt.gives_get desk)
  apply (Attempt.ends_mapM_of_keeps (fun i s hs => hs.ends_execute clock event i) _ h).bind
  · exact fun fault t ht => ht
  intro executions t ht
  apply Attempt.Ends.bind_ok (Attempt.gives_note _ _ _ t)
  exact (Attempt.gives_pure _ t).ends ht

theorem Kept.after (h : Kept handlers desk) (command : Command) :
    Kept handlers (desk.after command) := by
  cases command with
  | activate clock d => exact h.ends_activate clock d
  | activateTemplate clock id => exact h.ends_activateTemplate clock id
  | toggle id => exact h.ends_toggle id
  | remove id => exact h.ends_remove id
  | readEvent clock v => exact h.ends_readEvent clock v
  | handle clock event => exact h.ends_handle clock event

theorem Kept.afterAll (h : Kept handlers desk) (commands : List Command) :
    Kept handlers (desk.afterAll commands) := by
  induction commands generalizing desk with
  | nil => exact h
  | cons command rest ih => exact ih (h.after command)

end Desk

/-! ## Isolation -/

/-- The shapes of an execution of a workflow: a condition could not be evaluated, the trigger
did not match, or it matched and every action has its result. -/
def Execution.Shaped (e : Execution) (w : Workflow) : Prop :=
  (e.matched = false ∧ e.success = false ∧ e.results = [] ∧
      e.error? = some .conditionEvaluation ∧ e.detail?.isSome = true ∧
      ∃ c ∈ w.conditions, e.failedCondition? = some c) ∨
    (e.matched = false ∧ e.success = false ∧ e.results = [] ∧
      e.error? = none ∧ e.detail? = none ∧ e.failedCondition? = none) ∨
    (e.matched = true ∧ e.error? = none ∧ e.detail? = none ∧ e.failedCondition? = none ∧
      e.results.map ActionResult.kind = w.actions.map Action.kind ∧
      e.success = e.results.all ActionResult.success)

theorem Finding.Suits.shaped {finding : Finding} {w : Workflow} (h : finding.Suits w) (id : String)
    (now : Moment) : (Execution.mk id finding now).Shaped w := by
  cases finding with
  | undecided c detail => exact .inl ⟨rfl, rfl, rfl, rfl, rfl, c, h, rfl⟩
  | unmatched => exact .inr (.inl ⟨rfl, rfl, rfl, rfl, rfl, rfl⟩)
  | matched results => exact .inr (.inr ⟨rfl, rfl, rfl, rfl, h, rfl⟩)

namespace Desk

/-- The desk with one instance only. -/
def only (desk : Desk) (i : Instance) : Desk :=
  desk.withRegistry { desk.registry with instances := [i] }

/-- Handling an event answers one execution of its shape for each active instance, in order;
the execution and what becomes of the instance are as if it stood alone. -/
structure Isolated (desk : Desk) (clock : Clock) (event : Event) : Prop where
  executions : ∃ executions, ((handle clock event).run desk).result = .ok executions ∧
    List.Forall₂ (fun i e => e.workflow = i.id ∧ e.Shaped i.workflow ∧
        ((handle clock event).run (desk.only i)).result = .ok [e])
      desk.registry.active executions
  instances : List.Forall₂
    (fun i i' => ((handle clock event).run (desk.only i)).state.registry.instances = [i'])
    desk.registry.instances ((handle clock event).run desk).state.registry.instances

variable {handlers : Handlers} {desk : Desk} {now : Moment}

theorem ends_handle_only (hsteady : desk.registry.handlers.Steady) {clock : Clock}
    (hclock : clock.moment = .ok now) (event : Event) (i : Instance) :
    (handle clock event).Ends (desk.only i) fun result t =>
      (i.isActive = true →
          result = .ok [⟨i.id, i.found desk.registry.dispatcher event, now⟩]) ∧
        t.registry.instances = [settled desk.registry.dispatcher event now i] := by
  have hids : ((desk.only i).registry.instances.map Instance.id).Nodup := List.nodup_singleton _
  have honly : (desk.only i).registry.handlers.Steady := hsteady
  apply (ends_handle hids honly hclock event).mono
  rintro result t ⟨rfl, hinstances⟩
  refine ⟨fun hactive => ?_, hinstances⟩
  have hall : (desk.only i).registry.active = [i] := List.filter_cons_of_pos hactive
  rw [hall]
  rfl

theorem Kept.isolated (h : Kept handlers desk) (hsteady : handlers.Steady) {clock : Clock}
    (hclock : clock.moment = .ok now) (event : Event) : Isolated desk clock event := by
  have hdesk : desk.registry.handlers.Steady := by
    rw [h.handlers]
    exact hsteady
  obtain ⟨hresult, hinstances⟩ := Desk.ends_handle h.distinct hdesk hclock event
  constructor
  · refine ⟨_, hresult, List.forall₂_map_right_iff.mpr (List.forall₂_same.mpr fun i hi => ?_)⟩
    obtain ⟨-, hsuits⟩ := i.steady_found (d := desk.registry.dispatcher) hdesk rfl event
    have honly := (ends_handle_only hdesk hclock event i).1 (List.mem_filter.mp hi).2
    exact ⟨rfl, hsuits.shaped i.id now, honly⟩
  · rw [hinstances]
    exact List.forall₂_map_right_iff.mpr (List.forall₂_same.mpr fun i _ =>
      (ends_handle_only hdesk hclock event i).2)

/-- Alerts never end, and e-mails fail. -/
def troubledHandlers : Handlers :=
  (Handlers.empty.insert
      ⟨Vocabulary.value ActionKind.createAlert, .host "create_alert" fun _ _ => .hangs⟩).insert
    ⟨Vocabulary.value ActionKind.sendEmail, .host "send_email" fun _ _ => .raised "OSError" ""⟩

/-- The clock at the start of 1970. -/
def firstClock : Clock := ⟨Double.ofNat 0⟩

theorem exists_moment_firstClock : ∃ now, firstClock.moment = .ok now := by
  have hclock : firstClock.moment.toOption.isSome = true := by decide +kernel
  obtain ⟨now, hnow⟩ := Option.isSome_iff_exists.mp hclock
  exact ⟨now, Attempt.toOption_eq_some_iff.mp hnow⟩

/-- A deadline whose distance is a text, which no number can be compared with. -/
def deadlineEvent : Event where
  id := "e"
  kind := .deadlineApproaching
  entity := [("dias_restantes", .text "sete")]
  context := []
  occurredAt := Moment.earliest

end Desk

end CaseWorkflow
