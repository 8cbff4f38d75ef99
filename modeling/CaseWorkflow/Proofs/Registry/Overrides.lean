import CaseWorkflow.Proofs.Definition.Reading
import CaseWorkflow.Proofs.Definition.Rules
import CaseWorkflow.Proofs.Dispatch.Timeout
import CaseWorkflow.Proofs.Registry.History
import CaseWorkflow.Proofs.Registry.Offering

/-!
# Times that actions bring

An action may bring a time of its own, which then takes the place of the usual one.  Reading a
payload takes any value for it; validation lets pass what is above zero, and not-a-number, which
is not up to zero either.
-/

namespace CaseWorkflow

/-! ## What validation lets pass -/

theorem Number.not_isUpToZero_iff (x : Number) :
    ¬x.IsUpToZero ↔ x.isPositive = true ∨ x = .float .nan := by
  cases hplace : x.place? with
  | none =>
      have hnan : x = .float .nan := by
        cases x with
        | int i => cases hplace
        | float d =>
            cases d with
            | nan => rfl
            | _ => cases hplace
      rw [hnan]
      simp [IsUpToZero, place?]
  | some p =>
      have hproper : x ≠ .float .nan := by
        rintro rfl
        cases hplace
      rw [← le_zero_iff, isPositive_eq_not_le hplace]
      simp [hproper]

/-- No time at all, a number above zero, or not-a-number. -/
inductive Value.Passes (v : Value) : Prop
  | absent (h : v = .null)
  | above {seconds : Number} (hform : v.properNumber? = some seconds)
      (h : seconds.isPositive = true)
  | nan (h : v = .float .nan)

theorem Value.passes_iff {v : Value} :
    v.Passes ↔ v = .null ∨ ∃ seconds, v.properNumber? = some seconds ∧ ¬seconds.IsUpToZero := by
  constructor
  · intro h
    cases h with
    | absent hnull => exact .inl hnull
    | above hform hpositive =>
        exact .inr ⟨_, hform, (Number.not_isUpToZero_iff _).mpr (.inl hpositive)⟩
    | nan hnan =>
        rw [hnan]
        exact .inr ⟨_, rfl, (Number.not_isUpToZero_iff _).mpr (.inr rfl)⟩
  · rintro (hnull | ⟨seconds, hform, hspan⟩)
    · exact .absent hnull
    · rcases (Number.not_isUpToZero_iff seconds).mp hspan with hpositive | rfl
      · exact .above hform hpositive
      · refine .nan ?_
        cases v with
        | float d => exact congrArg Value.float (Number.float.inj (Option.some.inj hform))
        | int i => cases hform
        | _ => cases hform

theorem Action.inOrder_withTimeout_iff {a : Action} (h : a.InOrder) (timeout : Value) :
    Action.InOrder { a with timeout } ↔ timeout.Passes := by
  rw [Value.passes_iff]
  constructor
  · exact fun horder => horder.timeout
  · exact fun htimeout => ⟨h.kind, htimeout, h.parameters⟩

theorem Action.timeout_of_read {v : Value} {a : Action} (h : read v = .ok a) :
    a.timeout = v.field "timeout_seconds" := by
  unfold read at h
  split at h
  next entries hentries =>
    split at h
    next parameters hparameters =>
      obtain rfl := Except.ok.inj h
      rw [Value.field, hentries]
    next => cases h
  next => cases h

namespace Definition

variable {d : Definition}

theorem Sound.passes (h : d.Sound) : ∀ a ∈ d.actions, a.timeout.Passes := by
  intro a ha
  exact Value.passes_iff.mpr ((sound_iff.mp h).actions a ha).timeout

/-- Of a sound definition one time may be replaced by whatever passes, and by nothing else. -/
theorem sound_withTimeout_iff (h : d.Sound) {before after : List Action} {a : Action}
    (hactions : d.actions = before ++ a :: after) (timeout : Value) :
    Sound { d with actions := before ++ { a with timeout } :: after } ↔ timeout.Passes := by
  have horder := sound_iff.mp h
  have hall := horder.actions
  rw [hactions, List.forall_mem_append, List.forall_mem_cons] at hall
  obtain ⟨hbefore, ha, hafter⟩ := hall
  rw [sound_iff, ← Action.inOrder_withTimeout_iff ha]
  constructor
  · intro hreplaced
    exact hreplaced.actions _ (by simp)
  · intro hreplaced
    refine ⟨horder.id, horder.name, horder.description, horder.trigger, by simp, ?_⟩
    rw [List.forall_mem_append, List.forall_mem_cons]
    exact ⟨hbefore, hreplaced, hafter⟩

/-! ## What reading passes on -/

theorem timeouts_of_read {v : Value} (h : read v = .ok d) :
    ∃ items, (v.field "actions").itemsOf .actions = .ok items ∧
      d.actions.map Action.timeout = items.map fun item => item.field "timeout_seconds" := by
  obtain ⟨entries, trigger, parts, rfl, -, hparts, rfl⟩ := exists_parts_of_read h
  obtain ⟨-, items, hitems, hactions⟩ := exists_of_readParts hparts
  refine ⟨items, hitems, ?_⟩
  have hpairs := forall₂_of_mapM hactions
  rw [← List.forall₂_eq_eq_eq, List.forall₂_map_left_iff, List.forall₂_map_right_iff]
  exact hpairs.flip.imp fun a item hread => Action.timeout_of_read hread

end Definition

/-! ## The time that an action gets -/

theorem Number.isZero_of_isPositive {x : Number} (h : x.isPositive = true) : x.isZero = false := by
  have hless : cmp? (.int 0) x = some .lt := eq_of_beq h
  have hgreater : cmp? x (.int 0) = some .gt := by
    rw [← cmp?_swap, hless]
    rfl
  rw [isZero, eq, hgreater]
  rfl

theorem Value.Passes.isTruthy {v : Value} (h : v.Passes) (hgiven : v ≠ .null) :
    v.isTruthy = true := by
  cases h with
  | absent hnull => exact absurd hnull hgiven
  | above hform hpositive =>
      cases v with
      | int i =>
          obtain rfl := Option.some.inj hform
          rw [Number.isPositive_int, decide_eq_true_eq] at hpositive
          have hne : i ≠ 0 := by omega
          simpa [Value.isTruthy] using hne
      | float x =>
          obtain rfl := Option.some.inj hform
          rw [Value.isTruthy, Number.isZero_of_isPositive hpositive]
          rfl
      | _ => cases hform
  | nan hnan =>
      rw [hnan]
      rfl

theorem Value.number?_of_properNumber? {v : Value} {x : Number} (h : v.properNumber? = some x) :
    v.number? = some x := by
  cases v with
  | int i => exact h
  | float d => exact h
  | _ => cases h

theorem Value.Passes.of_ne_expired {v : Value} (h : v.Passes) (hgiven : v ≠ .null) :
    Start.of v ≠ .expired := by
  cases h with
  | absent hnull => exact absurd hnull hgiven
  | above hform hpositive =>
      apply Start.of_ne_expired
      rw [Value.IsPositive, Value.number?_of_properNumber? hform]
      exact hpositive
  | nan hnan =>
      rw [hnan]
      decide

/-- The time that the action brings is the one that it gets, whatever is usual: it runs as an
action without a time runs where that time is the usual one, and it never ends before it starts
for lack of time. -/
structure Action.GetsOwnTime (a : Action) : Prop where
  budget : ∀ usual, a.budget usual = a.timeout
  execute : ∀ (d : Dispatcher) (event : Event),
    d.execute a event
      = Dispatcher.execute { d with timeout := a.timeout } { a with timeout := .null } event
  start : ∀ event usual, a.start event usual ≠ .expired

theorem Action.getsOwnTime {a : Action} (h : a.timeout.Passes) (hgiven : a.timeout ≠ .null) :
    a.GetsOwnTime := by
  have hbudget : ∀ usual, a.budget usual = a.timeout := fun usual => if_pos (h.isTruthy hgiven)
  refine ⟨hbudget, ?_, ?_⟩
  · intro d event
    have hstart : a.start event d.timeout
        = Action.start { a with timeout := .null } event a.timeout := by
      rw [start, hbudget]
      rfl
    unfold Dispatcher.execute
    rw [hstart, hbudget]
    rfl
  · intro event usual
    unfold start
    rw [hbudget]
    by_cases hcopy : a.isCopyable event = true
    · rw [if_pos hcopy]
      exact h.of_ne_expired hgiven
    · simp [hcopy]

/-! ## Stored instances -/

/-- Whatever is done with a registry, it holds definitions as they were activated, and the times
that their actions bring are numbers above zero or not-a-number, each of which is the time that
its action gets.  A payload brings the times of its actions just as it has them, and of a sound
definition any may be replaced by not-a-number. -/
theorem stored_timeouts (handlers : Handlers) (timeout : Value) (catalog : Option Catalog)
    (ops : List Desk.Operation) :
    (∀ i ∈ ((Desk.Course.start handlers timeout catalog).run ops).desk.registry.instances,
      (∀ a ∈ i.workflow.actions, a.timeout.Passes ∧ (a.timeout ≠ .null → a.GetsOwnTime)) ∧
        ((∀ op ∈ ops, op.Timely) → (i.id, i.workflow.definition) ∈
          ((Desk.Course.start handlers timeout catalog).run ops).history.activations)) ∧
    (∀ v d, Definition.read v = .ok d →
      ∃ items, (v.field "actions").itemsOf .actions = .ok items ∧
        d.actions.map Action.timeout = items.map fun item => item.field "timeout_seconds") ∧
    ∀ (d : Definition) (before after : List Action) (a : Action), d.Sound →
      d.actions = before ++ a :: after → ∀ timeout,
        (Definition.Sound { d with actions := before ++ { a with timeout } :: after } ↔
          timeout.Passes) := by
  refine ⟨?_, fun v d h => Definition.timeouts_of_read h,
    fun d before after a h hactions timeout => Definition.sound_withTimeout_iff h hactions timeout⟩
  intro i hi
  constructor
  · intro a ha
    have hpasses := i.workflow.sound.passes a ha
    exact ⟨hpasses, fun hgiven => Action.getsOwnTime hpasses hgiven⟩
  · intro htimely
    have hrecorded := (Desk.Course.recorded_start handlers timeout catalog).run htimely
    exact (hrecorded.tells i hi).definition

/-- A definition with one action, which brings a time. -/
def taggingData (timeout : Value) : Value :=
  .object [
    ("id", .text "etiqueta"),
    ("name", .text "Etiqueta"),
    ("trigger", .object [("type", .text "processo_criado")]),
    ("actions", .list [
      .object [("type", .text "adicionar_tag"), ("parameters", .object [("tag", .text "novo")]),
        ("timeout_seconds", timeout)]])]

def taggingDefinition (timeout : Value) : Definition where
  id := .text "etiqueta"
  name := .text "Etiqueta"
  description := .text ""
  trigger := some ⟨.known .processCreated, []⟩
  actions := [⟨.text "adicionar_tag", .object [("tag", .text "novo")], timeout⟩]

theorem read_taggingData (timeout : Value) :
    Definition.read (taggingData timeout) = .ok (taggingDefinition timeout) := rfl

theorem sound_taggingDefinition {timeout : Value} (h : timeout.Passes) :
    (taggingDefinition timeout).Sound := by
  have hbare : (taggingDefinition .null).Sound := by decide +kernel
  exact (@Definition.sound_withTimeout_iff _ hbare [] [] _ rfl timeout).mpr h

/-- A registry in which that definition was activated first. -/
def tagged (timeout : Value) : List Desk.Operation :=
  [.activate Desk.firstClock (taggingDefinition timeout)]

theorem exists_stored_tagging {timeout : Value} (h : timeout.Passes) :
    ∃ i ∈ ((Desk.Course.start .empty .null none).run (tagged timeout)).desk.registry.instances,
      i.workflow.definition = taggingDefinition timeout := by
  obtain ⟨now, hclock⟩ := Desk.exists_moment_firstClock
  let w : Workflow := ⟨taggingDefinition timeout, sound_taggingDefinition h⟩
  have hcopies : w.isCopyable = true := rfl
  have hactivate := Desk.gives_activate hcopies hclock (Desk.opened .empty .null none)
  have hstep : (Desk.Operation.attempt (.activate Desk.firstClock w.definition)).Gives
      (Desk.opened .empty .null none) (.ok (.one _)) _ := hactivate.bind_ok (Attempt.gives_pure _ _)
  have hstate : ((Desk.Course.start .empty .null none).run (tagged timeout)).desk = _ := hstep.2
  rw [hstate]
  exact ⟨_, List.mem_singleton_self _, rfl⟩

theorem stored_timeouts_tagging :
    (∃ i ∈ ((Desk.Course.start .empty .null none).run (tagged (.int 30))).desk.registry.instances,
      (∃ a ∈ i.workflow.actions, a.timeout = .int 30 ∧ a.GetsOwnTime) ∧
        (i.id, taggingDefinition (.int 30)) ∈
          ((Desk.Course.start .empty .null none).run (tagged (.int 30))).history.activations) ∧
    (taggingDefinition (.float .nan)).Sound := by
  obtain ⟨hstored, -, hreplaced⟩ := stored_timeouts .empty .null none (tagged (.int 30))
  have hthirty : (Value.int 30).Passes := .above rfl (by decide)
  obtain ⟨i, hi, hdefinition⟩ := exists_stored_tagging hthirty
  obtain ⟨htimeouts, hactivated⟩ := hstored i hi
  rw [hdefinition] at hactivated
  let a : Action := ⟨.text "adicionar_tag", .object [("tag", .text "novo")], .int 30⟩
  have ha : a ∈ i.workflow.actions := by
    rw [Workflow.actions, hdefinition]
    exact List.mem_singleton_self a
  have hgets := (htimeouts a ha).2 nofun
  have htimely : ∀ op ∈ tagged (.int 30), op.Timely := by simp [tagged, Desk.Operation.Timely]
  refine ⟨⟨i, hi, ⟨a, ha, rfl, hgets⟩, hactivated htimely⟩, ?_⟩
  exact (hreplaced _ [] [] a (sound_taggingDefinition hthirty) rfl (.float .nan)).mpr (.nan rfl)

/-- Not-a-number is read, let pass and stored as the time of an action, though it is not above
zero. -/
theorem exists_stored_nan :
    Definition.read (taggingData (.float .nan)) = .ok (taggingDefinition (.float .nan)) ∧
      ∃ i ∈ ((Desk.Course.start .empty .null none).run
          (tagged (.float .nan))).desk.registry.instances,
        ∃ a ∈ i.workflow.actions,
          a.timeout = .float .nan ∧ (Number.float .nan).isPositive = false := by
  obtain ⟨i, hi, hdefinition⟩ := exists_stored_tagging (.nan rfl)
  let a : Action := ⟨.text "adicionar_tag", .object [("tag", .text "novo")], .float .nan⟩
  have ha : a ∈ i.workflow.actions := by
    rw [Workflow.actions, hdefinition]
    exact List.mem_singleton_self a
  exact ⟨read_taggingData _, i, hi, a, ha, rfl, by decide⟩

end CaseWorkflow
