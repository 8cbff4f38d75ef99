import CaseWorkflow.Proofs.Registry.Isolation

/-!
# The history of a registry

A registry is what was done with it.  The history keeps what each operation did that did not
fail, and from it follow the instances in the registry, their order, whether they are active,
and how often and when they last matched an event.
-/

namespace CaseWorkflow

namespace Desk

/-- What can be done with a registry or asked of it. -/
inductive Operation where
  | activate (clock : Clock) (d : Definition)
  | activateTemplate (clock : Clock) (id : Value)
  | toggle (id : Value)
  | remove (id : Value)
  | get (id : Value)
  | list
  | active
  | handle (clock : Clock) (event : Event)

inductive Answer where
  | one (i : Instance)
  | many (instances : List Instance)
  | executions (executions : List Execution)
  | done

def Operation.attempt : Operation → Attempt Desk Answer
  | .activate clock d => do return .one (← Desk.activate clock d)
  | .activateTemplate clock id => do return .one (← Desk.activateTemplate clock id)
  | .toggle id => do return .one (← Desk.toggle id)
  | .remove id => do
    Desk.remove id
    return .done
  | .get id => do return .one (← Desk.get id)
  | .list => do return .many (← Attempt.get).registry.instances
  | .active => do return .many (← Attempt.get).registry.active
  | .handle clock event => do return .executions (← Desk.handle clock event)

/-- An event is handled at a moment of the calendar. -/
def Operation.Timely : Operation → Prop
  | .handle clock _ => ∃ now, clock.moment = .ok now
  | _ => True

inductive Deed where
  | activated (id : String) (d : Definition)
  | toggled (id : String)
  | removed (id : String)
  | handled (now : Moment) (event : Event)

/-- What was done by an operation that came to an answer. -/
def Operation.deed? (catalog : Catalog) : Operation → Answer → Option Deed
  | .activate _ d, .one i => some (.activated i.id d)
  | .activateTemplate _ id, .one i =>
    (catalog.get id).toOption.map fun w => .activated i.id w.definition
  | .toggle id, .one _ => id.text?.map .toggled
  | .remove id, .done => id.text?.map .removed
  | .handle clock event, .executions _ => clock.moment.toOption.map (.handled · event)
  | _, _ => none

/-- What was done, the latest first. -/
abbrev History := List Deed

namespace History

/-- The ids that were given to activated definitions, in the order of activation. -/
def activations : History → List (String × Definition)
  | [] => []
  | .activated id d :: before => activations before ++ [(id, d)]
  | .toggled _ :: before | .removed _ :: before | .handled _ _ :: before => activations before

def removals : History → List String
  | [] => []
  | .removed id :: before => id :: removals before
  | .activated _ _ :: before | .toggled _ :: before | .handled _ _ :: before => removals before

/-- The ids that were not removed, in the order of activation. -/
def ids (h : History) : List String := (h.activations.map Prod.fst).filter (· ∉ h.removals)

def toggles (id : String) : History → ℕ
  | [] => 0
  | .toggled other :: before => toggles id before + if other = id then 1 else 0
  | .activated _ _ :: before | .removed _ :: before | .handled _ _ :: before => toggles id before

/-- The moments at which events were handled that an instance matched while it was active, the
latest first. -/
def hits (id : String) (w : Workflow) : History → List Moment
  | [] => []
  | .handled now event :: before =>
    if id ∈ ids before ∧ Even (toggles id before) ∧ w.firesOn event = true then
      now :: hits id w before
    else hits id w before
  | .activated _ _ :: before | .toggled _ :: before | .removed _ :: before => hits id w before

/-- The instance is as the history says. -/
structure Tells (h : History) (i : Instance) : Prop where
  definition : (i.id, i.workflow.definition) ∈ h.activations
  status : i.status = if Even (h.toggles i.id) then .active else .inactive
  executions : i.executions = (h.hits i.id i.workflow).length
  lastExecutedAt : i.lastExecutedAt = (h.hits i.id i.workflow).head?

variable {h : History} {id : String} {i : Instance}

theorem mem_activations_of_mem_ids (hid : id ∈ h.ids) : id ∈ h.activations.map Prod.fst :=
  (List.mem_filter.mp hid).1

theorem hits_eq_nil (w : Workflow) (hid : id ∉ h.activations.map Prod.fst) : h.hits id w = [] := by
  induction h with
  | nil => rfl
  | cons deed before ih =>
      cases deed with
      | activated other d =>
          simp only [activations, List.map_append, List.mem_append, not_or] at hid
          exact ih hid.1
      | toggled _ | removed _ => exact ih hid
      | handled now event =>
          have hnot : id ∉ ids before := fun hmem => hid (mem_activations_of_mem_ids hmem)
          simp only [hits, hnot, false_and, if_false]
          exact ih hid

theorem ids_activated (d : Definition) (hid : id ∉ h.removals) :
    ids (.activated id d :: h) = h.ids ++ [id] := by
  rw [ids, activations, List.map_append, List.filter_append]
  change h.ids ++ [id].filter (· ∉ h.removals) = _
  rw [List.filter_cons_of_pos (by simpa using hid), List.filter_nil]

theorem ids_removed (id : String) : ids (.removed id :: h) = h.ids.filter (· ≠ id) := by
  simp only [ids, activations, removals, List.filter_filter, List.mem_cons, not_or]
  congr 1
  funext other
  simp

theorem Tells.isActive_iff (ht : h.Tells i) : i.isActive = true ↔ Even (h.toggles i.id) := by
  rw [Instance.isActive, ht.status]
  split
  next heven => simp [heven]
  next hodd => simpa using hodd

theorem Tells.toggled (ht : h.Tells i) {status : Status} (hstatus : i.status.toggled = .ok status) :
    Tells (.toggled i.id :: h) { i with status } := by
  refine ⟨ht.definition, ?_, ht.executions, ht.lastExecutedAt⟩
  rw [ht.status] at hstatus
  simp only [toggles, if_true, Nat.even_add_one]
  by_cases heven : Even (h.toggles i.id)
  · rw [if_pos heven] at hstatus
    rw [if_neg (not_not.mpr heven)]
    exact (Except.ok.inj hstatus).symm
  · rw [if_neg heven] at hstatus
    rw [if_pos heven]
    exact (Except.ok.inj hstatus).symm

theorem Tells.handled (ht : h.Tells i) (hid : i.id ∈ h.ids) (now : Moment) (event : Event) :
    Tells (.handled now event :: h) (i.handled event now) := by
  -- The instance is counted if and only if the history has a hit for it.
  by_cases hhit : Even (h.toggles i.id) ∧ i.firesOn event = true
  · have hhandled : i.handled event now = i.counted.stamped now := by
      rw [Instance.handled, if_pos (ht.isActive_iff.mpr hhit.1), Instance.noted, if_pos hhit.2]
    have hhits : hits i.id i.workflow (.handled now event :: h) = now :: h.hits i.id i.workflow :=
      if_pos ⟨hid, hhit.1, hhit.2⟩
    rw [hhandled]
    refine ⟨ht.definition, ht.status, ?_, ?_⟩
    · change i.executions + 1 = _
      rw [ht.executions, ← List.length_cons, ← hhits]
      rfl
    · change some now = _
      exact (congrArg List.head? hhits).symm
  · have hhandled : i.handled event now = i := by
      rw [Instance.handled, Instance.noted]
      split
      next hactive =>
        rw [if_neg fun hfires => hhit ⟨ht.isActive_iff.mp hactive, hfires⟩]
      next => rfl
    have hhits : hits i.id i.workflow (.handled now event :: h) = h.hits i.id i.workflow :=
      if_neg fun hall => hhit ⟨hall.2.1, hall.2.2⟩
    rw [hhandled]
    refine ⟨ht.definition, ht.status, ?_, ?_⟩
    · rw [hhits]
      exact ht.executions
    · rw [hhits]
      exact ht.lastExecutedAt

end History

/-! ## Courses -/

/-- A desk with what was done at it. -/
structure Course where
  desk : Desk
  history : History

namespace Course

def start (handlers : Handlers) (timeout : Value) (catalog : Option Catalog) : Course :=
  ⟨opened handlers timeout catalog, []⟩

/-- An operation that fails does nothing that the history keeps. -/
def step (c : Course) (op : Operation) : Course :=
  let outcome := op.attempt.run c.desk
  { desk := outcome.state
    history :=
      (outcome.result.toOption.bind (op.deed? c.desk.registry.catalog)).toList ++ c.history }

def run (c : Course) (ops : List Operation) : Course := ops.foldl step c

/-- The registry holds the activated instances that were not removed, in the order of their
activation, as the history says; every id was given out once. -/
structure Recorded (c : Course) : Prop where
  distinct : (c.history.activations.map Prod.fst).Nodup
  issued : ∀ id ∈ c.history.activations.map Prod.fst, ∃ n ≤ c.desk.issued, id = s!"id-{n}"
  known : ∀ id, id ∉ c.history.activations.map Prod.fst →
    c.history.toggles id = 0 ∧ id ∉ c.history.removals
  ids : c.desk.registry.instances.map Instance.id = c.history.ids
  tells : ∀ i ∈ c.desk.registry.instances, c.history.Tells i

variable {c : Course} {t : Desk} {i : Instance}

theorem recorded_start (handlers : Handlers) (timeout : Value) (catalog : Option Catalog) :
    (start handlers timeout catalog).Recorded := by
  constructor
  · exact List.nodup_nil
  · exact fun id hid => by cases hid
  · exact fun id _ => ⟨rfl, List.not_mem_nil⟩
  · rfl
  · exact fun i hi => by cases hi

theorem Recorded.id_mem (h : c.Recorded) (hi : i ∈ c.desk.registry.instances) :
    i.id ∈ c.history.ids :=
  h.ids ▸ List.mem_map_of_mem hi

theorem Recorded.given (h : c.Recorded) : c.desk.Given (c.history.activations.map Prod.fst) :=
  ⟨h.distinct, h.issued⟩

theorem Recorded.kept (h : c.Recorded) (hregistry : t.registry = c.desk.registry)
    (hissued : c.desk.issued ≤ t.issued) : Recorded ⟨t, c.history⟩ := by
  constructor
  · exact h.distinct
  · exact (h.given.sublist (.refl _) hissued).issued
  · exact h.known
  · exact hregistry ▸ h.ids
  · exact hregistry ▸ h.tells

theorem Recorded.activated (h : c.Recorded) (workflow : Workflow) (now : Moment)
    (hregistry : t.registry = c.desk.registry.append (.create c.desk.freshId workflow now))
    (hissued : t.issued = c.desk.issued + 1) :
    Recorded ⟨t, .activated c.desk.freshId workflow.definition :: c.history⟩ := by
  have hfresh := h.given.freshId_not_mem
  obtain ⟨htoggles, hremovals⟩ := h.known _ hfresh
  have hactivations : (History.activations
      (.activated c.desk.freshId workflow.definition :: c.history)).map Prod.fst
        = c.history.activations.map Prod.fst ++ [c.desk.freshId] := List.map_append
  have hgiven := h.given.concat hissued
  rw [← hactivations] at hgiven
  constructor
  · exact hgiven.distinct
  · exact hgiven.issued
  · intro id hid
    change id ∉ (c.history.activations ++ [_]).map Prod.fst at hid
    rw [List.map_append, List.mem_append, not_or] at hid
    exact h.known id hid.1
  · change t.registry.instances.map Instance.id = _
    rw [hregistry, History.ids_activated _ hremovals, ← h.ids]
    simp [Registry.append, Instance.create]
  · intro i hi
    change i ∈ t.registry.instances at hi
    rw [hregistry] at hi
    rcases List.mem_append.mp hi with hold | hnew
    · have htells := h.tells i hold
      exact ⟨List.mem_append_left _ htells.definition, htells.status, htells.executions,
        htells.lastExecutedAt⟩
    · obtain rfl := List.mem_singleton.mp hnew
      have hnone := History.hits_eq_nil workflow hfresh
      refine ⟨List.mem_append_right _ (List.mem_singleton.mpr rfl), ?_, ?_, ?_⟩
      · change Status.active = if Even (c.history.toggles c.desk.freshId) then _ else _
        rw [htoggles, if_pos Even.zero]
      · change 0 = (c.history.hits c.desk.freshId workflow).length
        rw [hnone, List.length_nil]
      · change none = (c.history.hits c.desk.freshId workflow).head?
        rw [hnone, List.head?_nil]

theorem Recorded.toggled (h : c.Recorded) (hi : i ∈ c.desk.registry.instances) {status : Status}
    (hstatus : i.status.toggled = .ok status)
    (hregistry : t.registry = c.desk.registry.replace { i with status })
    (hissued : t.issued = c.desk.issued) : Recorded ⟨t, .toggled i.id :: c.history⟩ := by
  have hold := History.mem_activations_of_mem_ids (h.id_mem hi)
  constructor
  · exact h.distinct
  · exact hissued ▸ h.issued
  · intro id hid
    obtain ⟨htoggles, hremovals⟩ := h.known id hid
    have hne : i.id ≠ id := fun heq => hid (heq ▸ hold)
    refine ⟨?_, hremovals⟩
    rw [History.toggles, htoggles, if_neg hne]
  · change t.registry.instances.map Instance.id = _
    rw [hregistry, Registry.map_id_replace]
    exact h.ids
  · intro j hj
    change j ∈ t.registry.instances at hj
    rw [hregistry] at hj
    obtain ⟨k, hk, rfl⟩ := List.mem_map.mp hj
    split
    next => exact (h.tells i hi).toggled hstatus
    next hne =>
      have hother : i.id ≠ k.id := fun heq => hne (beq_iff_eq.mpr heq.symm)
      have htells := h.tells k hk
      refine ⟨htells.definition, ?_, htells.executions, htells.lastExecutedAt⟩
      rw [History.toggles, if_neg hother]
      exact htells.status

theorem Recorded.removed (h : c.Recorded) (hi : i ∈ c.desk.registry.instances)
    (hregistry : t.registry = c.desk.registry.erase i.id) (hissued : t.issued = c.desk.issued) :
    Recorded ⟨t, .removed i.id :: c.history⟩ := by
  have hold := History.mem_activations_of_mem_ids (h.id_mem hi)
  constructor
  · exact h.distinct
  · exact hissued ▸ h.issued
  · intro id hid
    obtain ⟨htoggles, hremovals⟩ := h.known id hid
    refine ⟨htoggles, fun hmem => ?_⟩
    rcases List.mem_cons.mp hmem with rfl | hmem
    · exact hid hold
    · exact hremovals hmem
  · change t.registry.instances.map Instance.id = _
    rw [hregistry, History.ids_removed, ← h.ids, List.filter_map]
    apply congrArg (List.map Instance.id)
    apply List.filter_congr
    intro j _
    rw [Function.comp_apply, Bool.eq_iff_iff]
    simp
  · intro j hj
    change j ∈ t.registry.instances at hj
    rw [hregistry] at hj
    have htells := h.tells j (List.mem_filter.mp hj).1
    exact ⟨htells.definition, htells.status, htells.executions, htells.lastExecutedAt⟩

theorem Recorded.handled (h : c.Recorded) (now : Moment) (event : Event)
    (hregistry : t.registry = { c.desk.registry with
      instances := c.desk.registry.instances.map (Instance.handled event now) })
    (hissued : t.issued = c.desk.issued) : Recorded ⟨t, .handled now event :: c.history⟩ := by
  constructor
  · exact h.distinct
  · exact hissued ▸ h.issued
  · exact h.known
  · change t.registry.instances.map Instance.id = c.history.ids
    rw [hregistry, ← h.ids, List.map_map]
    exact List.map_congr_left fun i _ => i.handled_id event now
  · intro j hj
    change j ∈ t.registry.instances at hj
    rw [hregistry] at hj
    obtain ⟨i, hi, rfl⟩ := List.mem_map.mp hj
    exact (h.tells i hi).handled (h.id_mem hi) now event

/-- An operation is recorded, and one that fails leaves the registry as it was. -/
theorem Recorded.ends_attempt (h : c.Recorded) {op : Operation} (htimely : op.Timely) :
    op.attempt.Ends c.desk fun result t =>
      Recorded ⟨t, (result.toOption.bind (op.deed? c.desk.registry.catalog)).toList ++ c.history⟩ ∧
        ∀ fault, result = .error fault → t.registry = c.desk.registry := by
  have hsame : Recorded ⟨c.desk, c.history⟩ := h
  cases op with
  | activate clock d =>
      apply (ends_activate clock d).bind
      · exact fun fault t ⟨hregistry, hissued⟩ => ⟨h.kept hregistry hissued, fun _ _ => hregistry⟩
      · rintro i t ⟨workflow, now, rfl, rfl, hregistry, hissued⟩
        exact (Attempt.gives_pure _ t).ends
          ⟨h.activated workflow now hregistry hissued, fun fault heq => by cases heq⟩
  | activateTemplate clock v =>
      apply (ends_activateTemplate clock v).bind
      · exact fun fault t ⟨hregistry, hissued⟩ => ⟨h.kept hregistry hissued, fun _ _ => hregistry⟩
      · rintro i t ⟨template, htemplate, workflow, now, hdefinition, rfl, hregistry, hissued⟩
        refine (Attempt.gives_pure _ t).ends ⟨?_, fun fault heq => by cases heq⟩
        have hrecorded := h.activated workflow now hregistry hissued
        rw [hdefinition] at hrecorded
        simp only [Except.toOption, Option.bind_some, Operation.deed?, htemplate, Option.map_some]
        exact hrecorded
  | toggle v =>
      apply (ends_toggle v).bind
      · rintro fault t rfl
        exact ⟨hsame, fun _ _ => rfl⟩
      · rintro answer t ⟨i, hi, htext, status, hstatus, rfl⟩
        refine (Attempt.gives_pure _ _).ends ⟨?_, fun fault heq => by cases heq⟩
        simp only [Except.toOption, Option.bind_some, Operation.deed?, htext, Option.map_some]
        exact h.toggled hi hstatus rfl rfl
  | remove v =>
      apply (ends_remove v).bind
      · rintro fault t rfl
        exact ⟨hsame, fun _ _ => rfl⟩
      · rintro answer t ⟨i, hi, htext, rfl⟩
        refine (Attempt.gives_pure _ _).ends ⟨?_, fun fault heq => by cases heq⟩
        simp only [Except.toOption, Option.bind_some, Operation.deed?, htext, Option.map_some]
        exact h.removed hi rfl rfl
  | get v =>
      have hget : (Desk.get v).Ends c.desk fun _ t => t = c.desk := by
        unfold Desk.get
        apply Attempt.Ends.bind_ok (Attempt.gives_get _)
        exact (Attempt.gives_ofExcept _ _).ends rfl
      apply hget.bind
      · rintro fault t rfl
        exact ⟨hsame, fun _ _ => rfl⟩
      · rintro i t rfl
        exact (Attempt.gives_pure _ _).ends ⟨hsame, fun _ _ => rfl⟩
  | list | active => exact ⟨hsame, fun _ _ => rfl⟩
  | handle clock event =>
      obtain ⟨now, hclock⟩ := htimely
      have hdistinct : (c.desk.registry.instances.map Instance.id).Nodup :=
        h.ids ▸ h.distinct.filter _
      apply (ends_handle_any hdistinct hclock event).bind
      · rintro fault t ⟨⟨executions, heq, -⟩, -⟩
        cases heq
      · rintro executions t ⟨-, hissued, hregistry⟩
        refine (Attempt.gives_pure _ t).ends ⟨?_, fun fault heq => by cases heq⟩
        simp only [Except.toOption, Option.bind_some, Operation.deed?, hclock, Option.map_some]
        exact h.handled now event hregistry hissued

theorem Recorded.run (h : c.Recorded) {ops : List Operation} (htimely : ∀ op ∈ ops, op.Timely) :
    (c.run ops).Recorded := by
  induction ops generalizing c with
  | nil => exact h
  | cons op rest ih =>
      have hstep : (c.step op).Recorded := (h.ends_attempt (htimely op List.mem_cons_self)).1
      exact ih hstep fun op hop => htimely op (List.mem_cons_of_mem _ hop)

/-- The registry is what its history says. -/
structure Faithful (c : Course) : Prop where
  distinct : (c.history.activations.map Prod.fst).Nodup
  ids : c.desk.registry.instances.map Instance.id = c.history.ids
  tells : ∀ i ∈ c.desk.registry.instances, c.history.Tells i
  stored : ∀ i ∈ c.desk.registry.instances, i.status ≠ .removed ∧
    (i.isActive = true ↔ Even (c.history.toggles i.id)) ∧
    (i.lastExecutedAt = none ↔ i.executions = 0)
  /-- What was removed is gone for good. -/
  gone : ∀ id ∈ c.history.removals, ∀ v : Value, v.text? = some id →
    id ∉ c.desk.registry.instances.map Instance.id ∧
      (Desk.get v).Gives c.desk (.error (.instanceMissing v)) c.desk ∧
      (toggle v).Gives c.desk (.error (.instanceMissing v)) c.desk ∧
      (remove v).Gives c.desk (.error (.instanceMissing v)) c.desk
  failed : ∀ op : Operation, op.Timely → ∀ fault, (op.attempt.run c.desk).result = .error fault →
    (op.attempt.run c.desk).state.registry = c.desk.registry

theorem Recorded.faithful (h : c.Recorded) : c.Faithful := by
  constructor
  · exact h.distinct
  · exact h.ids
  · exact h.tells
  · intro i hi
    have htells := h.tells i hi
    refine ⟨?_, htells.isActive_iff, ?_⟩
    · rw [htells.status]
      split_ifs <;> simp
    · rw [htells.lastExecutedAt, htells.executions]
      simp
  · intro id hid v htext
    have hnot : id ∉ c.desk.registry.instances.map Instance.id := by
      rw [h.ids]
      intro hmem
      simpa [hid] using (List.mem_filter.mp hmem).2
    exact ⟨hnot, missing_fails htext hnot⟩
  · exact fun op htimely => (h.ends_attempt htimely).2

/-- Whatever is done with a registry, it is what its history says. -/
theorem registry_tells_history (handlers : Handlers) (timeout : Value) (catalog : Option Catalog)
    (ops : List Operation) (htimely : ∀ op ∈ ops, op.Timely) :
    ((start handlers timeout catalog).run ops).Faithful :=
  ((recorded_start handlers timeout catalog).run htimely).faithful

/-- Two workflows, the first of which is paused for one of two deadlines, and the second
removed. -/
def pausedAndRemoved : List Operation := [
  .activateTemplate firstClock (.text "prazo-7dias-alerta"),
  .activateTemplate firstClock (.text "audiencia-lembrete"),
  .handle firstClock deadlineEvent,
  .toggle (.text "id-1"),
  .handle firstClock deadlineEvent,
  .remove (.text "id-2"),
  .get (.text "id-2")]

theorem registry_tells_history_paused :
    (∀ op ∈ pausedAndRemoved, op.Timely) ∧
      ((start troubledHandlers (.int 1) none).run pausedAndRemoved).Faithful := by
  have htimely : ∀ op ∈ pausedAndRemoved, op.Timely := by
    have hhandle : (Operation.handle firstClock deadlineEvent).Timely :=
      exists_moment_firstClock
    simp only [pausedAndRemoved, List.forall_mem_cons]
    exact ⟨trivial, trivial, hhandle, trivial, hhandle, trivial, trivial, by simp⟩
  exact ⟨htimely, registry_tells_history troubledHandlers (.int 1) none pausedAndRemoved htimely⟩

end Course

end Desk

end CaseWorkflow
