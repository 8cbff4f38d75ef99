import CaseWorkflow.Proofs.Dispatch.Logging
import CaseWorkflow.Proofs.Queue.RoundTrip
import CaseWorkflow.Proofs.Registry.Isolation
import CaseWorkflow.Proofs.Registry.Reordering

/-!
# Shadowed values

What the context of an event has under a key of the entity is not seen by conditions or
templates.  An event therefore comes to the same whatever these values are, as long as handlers
only note what they do; but an event is copied for each action as a whole, and a value that nests
too deep to be copied lets the action fail, seen or not.
-/

namespace CaseWorkflow

/-! ## Data that look alike -/

/-- The data have the same value under each key. -/
def Entries.Alike (data other : Entries) : Prop := ∀ key, data.lookup key = other.lookup key

/-- Below the keys of the upper table the lower ones need not agree. -/
theorem Table.lookup_merge_congr {α : Type} {above base other : Table α}
    (h : ∀ key, key ∉ above.keys → base.lookup key = other.lookup key) (key : String) :
    (base.merge above).lookup key = (other.merge above).lookup key := by
  induction above generalizing base other with
  | nil => exact h key List.not_mem_nil
  | cons entry rest ih =>
      apply ih
      intro later hlater
      rw [lookup_insert, lookup_insert]
      by_cases hkey : later = entry.1
      · rw [if_pos hkey, if_pos hkey]
      · have hnot : later ∉ Table.keys (entry :: rest) := by
          rw [keys, List.map_cons, List.mem_cons, not_or]
          exact ⟨hkey, hlater⟩
        rw [if_neg hkey, if_neg hkey, h later hnot]

section Alike

variable {data other : Entries}

theorem Condition.evaluate_congr (h : data.Alike other) (c : Condition) :
    c.evaluate data = c.evaluate other := by
  have hactual : c.actual? data = c.actual? other := by
    unfold actual?
    cases c.field.text? with
    | none => rfl
    | some key => exact h key
  rw [evaluate, hactual]
  rfl

theorem Condition.evaluateAll_congr (h : data.Alike other) (conditions : List Condition) :
    evaluateAll conditions data = evaluateAll conditions other := by
  induction conditions with
  | nil => rfl
  | cons c rest ih => rw [evaluateAll, evaluateAll, c.evaluate_congr h, ih]

namespace Template

theorem resolve_congr (h : data.Alike other) (name : List Char) :
    resolve data name = resolve other name := by
  unfold resolve
  simp only [h _]

theorem renderChars_congr (h : data.Alike other) (levels : ℕ) (cs : List Char) :
    renderChars data levels cs = renderChars other levels cs := by
  induction levels generalizing cs with
  | zero => rfl
  | succ levels ih => simp only [renderChars, resolve_congr h, ih]

theorem render_congr (h : data.Alike other) (text : String) :
    render text data = render text other := by
  rw [render, renderChars_congr h]
  rfl

end Template

end Alike

/-- The events differ at most in what their contexts have under keys of the entity. -/
structure Event.SeenAlike (event other : Event) : Prop where
  id : event.id = other.id
  kind : event.kind = other.kind
  entity : event.entity = other.entity
  occurredAt : event.occurredAt = other.occurredAt
  unshadowed : ∀ key, key ∉ event.entity.keys →
    event.context.lookup key = other.context.lookup key

section SeenAlike

variable {event other : Event}

theorem Event.SeenAlike.data (h : event.SeenAlike other) : event.data.Alike other.data := by
  intro key
  unfold Event.data
  rw [← h.entity]
  exact Table.lookup_merge_congr h.unshadowed key

theorem fires_congr (h : event.SeenAlike other) (kind : TriggerKind)
    (conditions : List Condition) : fires kind conditions event = fires kind conditions other := by
  rw [fires, h.kind, Condition.evaluateAll_congr h.data]
  rfl

/-! ## Handlers that only note -/

/-- No handler calls the host. -/
def Handlers.OnlyNote (handlers : Handlers) : Prop :=
  ∀ entry ∈ handlers.table, ∃ outlet, entry.2.conduct = .logging outlet

theorem Handlers.onlyNote_registerLogging : (registerLogging.run .empty).state.OnlyNote := by
  intro entry hentry
  rw [table_registerLogging] at hentry
  obtain ⟨kind, -, rfl⟩ := List.mem_map.mp hentry
  exact ⟨_, rfl⟩

theorem Handlers.OnlyNote.steady {handlers : Handlers} (h : handlers.OnlyNote) :
    handlers.Steady := by
  intro entry hentry capability respond hconduct
  obtain ⟨outlet, hlogging⟩ := h entry hentry
  rw [hlogging] at hconduct
  cases hconduct

theorem Handler.renderParameters_congr (h : event.SeenAlike other) (parameters : Entries) :
    renderParameters parameters event = renderParameters parameters other := by
  simp only [renderParameters, Template.render_congr h.data]

theorem Handler.execute_congr {handler : Handler} {outlet : Outlet}
    (hnotes : handler.conduct = .logging outlet) (h : event.SeenAlike other)
    (parameters : Value) : handler.execute parameters event = handler.execute parameters other := by
  unfold execute actionText
  rw [hnotes]
  simp only [renderParameters_congr h, h.kind, h.id]

/-! ## Actions -/

/-- Whether the context can be copied for a handler. -/
def Event.ContextCopies (event : Event) : Prop := Json.depth (.object event.context) ≤ copyDepth

theorem Action.start_congr (h : event.SeenAlike other)
    (hcopies : event.ContextCopies ↔ other.ContextCopies) (a : Action) (usual : Value) :
    a.start event usual = a.start other usual := by
  have hcopy : a.isCopyable event = a.isCopyable other := by
    rw [Bool.eq_iff_iff]
    unfold Event.ContextCopies at hcopies
    simp [isCopyable, h.entity, hcopies]
  rw [start, hcopy]
  rfl

namespace Dispatcher

variable {d : Dispatcher}

theorem execute_congr (hnote : d.handlers.OnlyNote) (h : event.SeenAlike other)
    (hcopies : event.ContextCopies ↔ other.ContextCopies) (a : Action) :
    d.execute a event = d.execute a other := by
  unfold execute
  rw [a.start_congr h hcopies]
  unfold Handlers.find?
  by_cases hkey : a.kind.isKey = true
  · rw [if_pos hkey, Attempt.ofExcept_ok_bind, Attempt.ofExcept_ok_bind]
    cases hfind : (d.handlers.table.find? fun entry => entry.1.same a.kind) with
    | none => rfl
    | some entry =>
        obtain ⟨outlet, hnotes⟩ := hnote entry (List.mem_of_find?_eq_some hfind)
        simp only [Option.map_some, Handler.execute_congr hnotes h]
  · rw [if_neg hkey, Attempt.ofExcept_error_bind, Attempt.ofExcept_error_bind]

theorem dispatchFrom_congr (hnote : d.handlers.OnlyNote) (h : event.SeenAlike other)
    (hcopies : event.ContextCopies ↔ other.ContextCopies) (position : ℕ) (actions : List Action) :
    d.dispatchFrom event position actions = d.dispatchFrom other position actions := by
  induction actions generalizing position with
  | nil => rfl
  | cons a rest ih =>
      have hstep : d.step event position a = d.step other position a := by
        unfold step
        rw [execute_congr hnote h hcopies, h.id]
      rw [dispatchFrom, dispatchFrom, hstep, ih]

end Dispatcher

/-! ## Instances -/

theorem Instance.react_congr {d : Dispatcher} (hnote : d.handlers.OnlyNote)
    (h : event.SeenAlike other) (hcopies : event.ContextCopies ↔ other.ContextCopies)
    (i : Instance) : i.react d event = i.react d other := by
  unfold react Dispatcher.dispatch
  rw [fires_congr h, h.id, Dispatcher.dispatchFrom_congr hnote h hcopies]

namespace Desk

variable {handlers : Handlers} {desk : Desk}

theorem run_execute_congr (hnote : desk.registry.handlers.OnlyNote) (h : event.SeenAlike other)
    (hcopies : event.ContextCopies ↔ other.ContextCopies) (clock : Clock) (i : Instance) :
    (execute clock event i).run desk = (execute clock other i).run desk := by
  unfold execute
  rw [Attempt.run_get_bind, Attempt.run_get_bind]
  dsimp only
  rw [i.react_congr (d := desk.registry.dispatcher) hnote h hcopies]

theorem Kept.run_handle_congr (hkept : Kept handlers desk) (hnote : handlers.OnlyNote)
    (h : event.SeenAlike other) (hcopies : event.ContextCopies ↔ other.ContextCopies)
    (clock : Clock) : (handle clock event).run desk = (handle clock other).run desk := by
  have hexecutions : ∀ list : List Instance,
      (list.mapM (execute clock event)).run desk = (list.mapM (execute clock other)).run desk := by
    intro list
    -- what an instance leaves still has the handlers that the next one needs
    apply Attempt.run_mapM_congr (P := Kept handlers)
    · intro i t ht
      have honly : t.registry.handlers.OnlyNote := by
        rw [ht.handlers]
        exact hnote
      exact run_execute_congr honly h hcopies clock i
    · exact fun i t ht => ht.ends_execute clock other i
    · exact hkept
  unfold handle
  rw [Attempt.run_get_bind, Attempt.run_get_bind, h.id, h.kind]
  exact Attempt.run_bind_congr (hexecutions desk.registry.active)

end Desk

/-! ## What copying does not touch -/

/-- The finding without the results of actions. -/
def Finding.outline : Finding → Finding
  | .matched _ => .matched []
  | finding => finding

theorem Finding.outline_missed (fired : Except Undecided Bool) :
    (missed fired).outline = missed fired := by
  obtain hmissed | ⟨c, message, hmissed⟩ := missed_eq fired <;> rw [hmissed] <;> rfl

theorem Finding.outline_of_isMatched {finding : Finding} (h : finding.isMatched = true) :
    finding.outline = .matched [] := by
  cases finding with
  | matched results => rfl
  | _ => cases h

namespace Instance

variable {d : Dispatcher}

theorem outline_found (hsteady : d.handlers.Steady) (hfree : d.interrupted = false)
    (event : Event) (i : Instance) :
    (i.found d event).outline
      = if i.firesOn event then .matched []
        else .missed (fires i.workflow.kind i.workflow.conditions event) := by
  have hfound := (i.steady_found hsteady hfree event).1 []
  by_cases hfires : i.firesOn event = true
  · obtain ⟨finding, hfinding, hmatched, -⟩ := i.succeeds_react hfree event []
    have hsame : i.found d event = finding := Except.ok.inj (hfound.symm.trans hfinding)
    rw [if_pos hfires, hsame]
    exact Finding.outline_of_isMatched (hmatched.trans hfires)
  · have hnot : fires i.workflow.kind i.workflow.conditions event ≠ .ok true := by
      intro hfired
      apply hfires
      rw [firesOn, Workflow.firesOn, hfired]
    have hmissed := (gives_react_missed hnot (d := d) []).1
    have hsame : i.found d event = .missed (fires i.workflow.kind i.workflow.conditions event) :=
      Except.ok.inj (hfound.symm.trans hmissed)
    rw [if_neg hfires, hsame, Finding.outline_missed]

theorem firesOn_congr (h : event.SeenAlike other) (i : Instance) :
    i.firesOn event = i.firesOn other := by
  rw [firesOn, Workflow.firesOn, fires_congr h]
  rfl

end Instance

namespace Desk

variable {handlers : Handlers} {desk : Desk} {clock : Clock} {now : Moment}

/-- The executions are of one workflow and moment, and differ at most in what actions came to. -/
structure Outlined (e twin : Execution) : Prop where
  workflow : e.workflow = twin.workflow
  outline : e.finding.outline = twin.finding.outline
  executedAt : e.executedAt = twin.executedAt

theorem Kept.outlined (hkept : Kept handlers desk) (hnote : handlers.OnlyNote)
    (hclock : clock.moment = .ok now) (h : event.SeenAlike other) :
    ∃ executions twins, ((handle clock event).run desk).result = .ok executions ∧
      ((handle clock other).run desk).result = .ok twins ∧
      List.Forall₂ Outlined executions twins := by
  have hsteady : desk.registry.handlers.Steady := by
    rw [hkept.handlers]
    exact hnote.steady
  -- one run need not be like the other, but each comes to what its instances find by themselves
  have hevent := (Desk.ends_handle hkept.distinct hsteady hclock event).1
  have hother := (Desk.ends_handle hkept.distinct hsteady hclock other).1
  refine ⟨_, _, hevent, hother, ?_⟩
  rw [List.forall₂_map_left_iff, List.forall₂_map_right_iff, List.forall₂_same]
  intro i _
  refine ⟨rfl, ?_, rfl⟩
  have hfree : desk.registry.dispatcher.interrupted = false := rfl
  rw [i.outline_found hsteady hfree, i.outline_found hsteady hfree, i.firesOn_congr h,
    fires_congr h]

theorem Kept.registry_congr (hkept : Kept handlers desk) (hclock : clock.moment = .ok now)
    (h : event.SeenAlike other) :
    ((handle clock event).run desk).state.registry
      = ((handle clock other).run desk).state.registry := by
  have hhandled : Instance.handled event now = Instance.handled other now := by
    funext i
    rw [Instance.handled, Instance.noted, i.firesOn_congr h]
    rfl
  obtain ⟨-, -, hevent⟩ := ends_handle_any hkept.distinct hclock event
  obtain ⟨-, -, hother⟩ := ends_handle_any hkept.distinct hclock other
  rw [hevent, hother, hhandled]

/-- Whatever was done with a registry whose handlers only note, values of the context that the
entity shadows change neither what matches, nor which condition cannot be evaluated and why, nor
the registry; and nothing at all, notes included, if both contexts can be copied or neither. -/
theorem shadowed_values_unseen (handlers : Handlers) (hnote : handlers.OnlyNote)
    (timeout : Value) (catalog : Option Catalog) (commands : List Command) (clock : Clock)
    (event other : Event) (h : event.SeenAlike other) :
    ((event.ContextCopies ↔ other.ContextCopies) →
      (handle clock event).run ((opened handlers timeout catalog).afterAll commands)
        = (handle clock other).run ((opened handlers timeout catalog).afterAll commands)) ∧
    ∀ now, clock.moment = .ok now →
      (∃ executions twins,
        ((handle clock event).run ((opened handlers timeout catalog).afterAll commands)).result
            = .ok executions ∧
          ((handle clock other).run ((opened handlers timeout catalog).afterAll commands)).result
            = .ok twins ∧ List.Forall₂ Outlined executions twins) ∧
      ((handle clock event).run
          ((opened handlers timeout catalog).afterAll commands)).state.registry
        = ((handle clock other).run
          ((opened handlers timeout catalog).afterAll commands)).state.registry := by
  have hkept := (kept_opened handlers timeout catalog).afterAll commands
  constructor
  · exact fun hcopies => hkept.run_handle_congr hnote h hcopies clock
  · exact fun now hclock => ⟨hkept.outlined hnote hclock h, hkept.registry_congr hclock h⟩

end Desk

end SeenAlike

namespace Desk

/-- A deadline in five days, whose distance the context has too. -/
def shadowingEvent (shadowed : Value) : Event where
  id := "e"
  kind := .deadlineApproaching
  entity := [("dias_restantes", .int 5)]
  context := [("dias_restantes", shadowed), ("usuario", .text "ana")]
  occurredAt := Moment.earliest

theorem seenAlike_shadowingEvent (shadowed other : Value) :
    (shadowingEvent shadowed).SeenAlike (shadowingEvent other) := by
  refine ⟨rfl, rfl, rfl, rfl, ?_⟩
  intro key hkey
  have hne : key ≠ "dias_restantes" := by simpa [shadowingEvent, Table.keys] using hkey
  simp [shadowingEvent, Table.lookup_cons, hne]

/-- A registry that notes deadlines. -/
def notingDesk : Desk :=
  (opened (Handlers.registerLogging.run .empty).state (.int 5) none).afterAll
    [.activateTemplate firstClock (.text "prazo-7dias-alerta")]

theorem exists_successes {event : Event} {successes : List Bool}
    (h : ((handle firstClock event).run notingDesk).result.toOption.map
      (fun executions => executions.map Execution.success) = some successes) :
    ∃ executions, ((handle firstClock event).run notingDesk).result = .ok executions ∧
      executions.map Execution.success = successes := by
  obtain ⟨executions, hresult, hsuccesses⟩ := Option.map_eq_some_iff.mp h
  exact ⟨executions, Attempt.toOption_eq_some_iff.mp hresult, hsuccesses⟩

theorem shadowed_values_unseen_deadline :
    (Handlers.registerLogging.run .empty).state.OnlyNote ∧
      (shadowingEvent (.int 30)).SeenAlike (shadowingEvent (.text "trinta")) ∧
      (handle firstClock (shadowingEvent (.int 30))).run notingDesk
        = (handle firstClock (shadowingEvent (.text "trinta"))).run notingDesk ∧
      ∃ now, firstClock.moment = .ok now ∧
        ((handle firstClock (shadowingEvent (.int 30))).run notingDesk).state.registry
          = ((handle firstClock (shadowingEvent (Message.nested copyDepth))).run
            notingDesk).state.registry := by
  have hnote := Handlers.onlyNote_registerLogging
  have hseen := seenAlike_shadowingEvent (.int 30)
  have hcopies : (shadowingEvent (.int 30)).ContextCopies ↔
      (shadowingEvent (.text "trinta")).ContextCopies := Iff.rfl
  obtain ⟨now, hclock⟩ := exists_moment_firstClock
  have hflat := shadowed_values_unseen _ hnote (.int 5) none
    [.activateTemplate firstClock (.text "prazo-7dias-alerta")] firstClock _ _
    (hseen (.text "trinta"))
  have hdeep := shadowed_values_unseen _ hnote (.int 5) none
    [.activateTemplate firstClock (.text "prazo-7dias-alerta")] firstClock _ _
    (hseen (Message.nested copyDepth))
  rw [← notingDesk] at hflat hdeep
  exact ⟨hnote, hseen _, hflat.1 hcopies, now, hclock, (hdeep.2 now hclock).2⟩

/-- A value that nests too deep to be copied lets actions fail that do not see it. -/
theorem exists_shadowed_failure :
    (shadowingEvent (Message.nested copyDepth)).SeenAlike (shadowingEvent .null) ∧
      (∃ executions, ((handle firstClock (shadowingEvent (Message.nested copyDepth))).run
          notingDesk).result = .ok executions ∧ executions.map Execution.success = [false]) ∧
      ∃ executions, ((handle firstClock (shadowingEvent .null)).run notingDesk).result
          = .ok executions ∧ executions.map Execution.success = [true] := by
  refine ⟨seenAlike_shadowingEvent _ _, exists_successes ?_, exists_successes ?_⟩
  · decide +kernel
  · decide +kernel

end Desk

end CaseWorkflow
