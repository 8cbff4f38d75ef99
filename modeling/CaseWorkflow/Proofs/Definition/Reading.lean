import CaseWorkflow.Definition.Validation
import CaseWorkflow.Proofs.Rows
import Mathlib.Data.Prod.Lex
import Mathlib.Tactic

/-!
# Reading definitions

Below its trigger and its actions the payload of a definition has pieces, each of which may
offend by itself, whatever the others are.  Reading reports the problem of the foremost piece
that offends, and reads what has none.
-/

namespace CaseWorkflow

/-! ## Offences -/

/-- What keeps a value from being read as a condition. -/
inductive Condition.Offends (v : Value) : Problem → Prop
  | form (h : ∀ entries, v ≠ .object entries) : Offends v (.notAnObject .condition)
  | operator {entries : Entries} (hform : v = .object entries)
      (h : ∀ operator : Operator,
        (entries.field "operator").text? ≠ some (Vocabulary.wire operator)) :
      Offends v (.unknownOperator (entries.field "operator"))

/-- What keeps a value from being read as an action.  Parameters that say nothing are as good
as none. -/
inductive Action.Offends (v : Value) : Problem → Prop
  | form (h : ∀ entries, v ≠ .object entries) : Offends v (.notAnObject .action)
  | parameters {entries : Entries} (hform : v = .object entries)
      (hgiven : (entries.field "parameters").isTruthy = true)
      (h : ∀ parameters, entries.field "parameters" ≠ .object parameters) :
      Offends v (.notAnObject .actionParameters)

namespace Definition

/-- The pieces of a payload, in the order in which they are read. -/
inductive Piece where
  | kind
  | conditions
  | condition (position : ℕ)
  | actions
  | action (position : ℕ)

def Piece.stage : Piece → ℕ
  | .kind => 0
  | .conditions => 1
  | .condition _ => 2
  | .actions => 3
  | .action _ => 4

def Piece.position : Piece → ℕ
  | .condition position | .action position => position
  | _ => 0

def Piece.place (piece : Piece) : ℕ ×ₗ ℕ := toLex (piece.stage, piece.position)

/-- What is wrong with a piece of a payload, which has entries of its own and a trigger. -/
inductive Offends (entries trigger : Entries) : Piece → Problem → Prop
  | kindMissing (h : (trigger.field "type").isTruthy = false) :
      Offends entries trigger .kind .triggerKindMissing
  | kindUnknown (hgiven : (trigger.field "type").isTruthy = true)
      (h : ∀ kind : TriggerKind, (trigger.field "type").text? ≠ some (Vocabulary.wire kind)) :
      Offends entries trigger .kind (.unknownTriggerKind (trigger.field "type"))
  | conditions (hgiven : trigger.field "conditions" ≠ .null)
      (h : ∀ items, trigger.field "conditions" ≠ .list items) :
      Offends entries trigger .conditions (.notAList .triggerConditions)
  | condition {items : List Value} {position : ℕ} {item : Value} {problem : Problem}
      (hitems : trigger.field "conditions" = .list items)
      (hposition : items[position]? = some item) (h : Condition.Offends item problem) :
      Offends entries trigger (.condition position) problem
  | actions (hgiven : entries.field "actions" ≠ .null)
      (h : ∀ items, entries.field "actions" ≠ .list items) :
      Offends entries trigger .actions (.notAList .actions)
  | action {items : List Value} {position : ℕ} {item : Value} {problem : Problem}
      (hitems : entries.field "actions" = .list items)
      (hposition : items[position]? = some item) (h : Action.Offends item problem) :
      Offends entries trigger (.action position) problem

/-- The piece offends with a problem, and nothing in front of it does. -/
structure Foremost (entries trigger : Entries) (piece : Piece) (problem : Problem) : Prop where
  offends : Offends entries trigger piece problem
  first : ∀ other otherProblem, Offends entries trigger other otherProblem →
    piece.place ≤ other.place

end Definition

/-! ## Pieces -/

theorem Vocabulary.find?_eq_none_iff {α : Type} [Vocabulary α]
    (hall : ∀ member : α, member ∈ Vocabulary.members) {v : Value} :
    (Vocabulary.find? v : Option α) = none ↔
      ∀ member : α, v.text? ≠ some (Vocabulary.wire member) := by
  unfold find?
  cases v.text? with
  | none => simp
  | some s =>
      rw [Option.bind_some, List.find?_eq_none]
      constructor
      · intro h member heq
        obtain rfl := Option.some.inj heq
        exact h member (hall member) (beq_self_eq_true _)
      · intro h member _ heq
        exact h member (congrArg some (eq_of_beq heq).symm)

theorem TriggerKind.mem_members (kind : TriggerKind) : kind ∈ Vocabulary.members := by
  cases kind <;> decide

theorem Operator.mem_members (operator : Operator) : operator ∈ Vocabulary.members := by
  cases operator <;> decide

theorem Condition.read_eq_error_iff {v : Value} {problem : Problem} :
    read v = .error problem ↔ Offends v problem := by
  constructor
  · intro h
    cases v with
    | object entries =>
        simp only [read, Value.entries?] at h
        cases hoperator :
            (Vocabulary.find? (Entries.field entries "operator") : Option Operator) with
        | some operator =>
            rw [hoperator] at h
            cases h
        | none =>
            rw [hoperator] at h
            obtain rfl := Except.error.inj h
            exact .operator rfl ((Vocabulary.find?_eq_none_iff Operator.mem_members).mp hoperator)
    | _ =>
        obtain rfl := Except.error.inj h
        exact .form (by simp)
  · intro h
    cases h with
    | form hform =>
        cases v with
        | object entries => exact absurd rfl (hform entries)
        | _ => rfl
    | operator hform hunknown =>
        rw [hform]
        simp only [read, Value.entries?,
          (Vocabulary.find?_eq_none_iff Operator.mem_members).mpr hunknown]

theorem Action.read_eq_error_iff {v : Value} {problem : Problem} :
    read v = .error problem ↔ Offends v problem := by
  constructor
  · intro h
    cases v with
    | object entries =>
        simp only [read, Value.entries?] at h
        split at h
        · cases h
        next hnone =>
          obtain rfl := Except.error.inj h
          by_cases hgiven : (Entries.field entries "parameters").isTruthy = true
          · rw [Value.orElse, if_pos hgiven] at hnone
            refine .parameters rfl hgiven ?_
            intro parameters hparameters
            rw [hparameters] at hnone
            cases hnone
          · rw [Value.orElse, if_neg hgiven] at hnone
            cases hnone
    | _ =>
        obtain rfl := Except.error.inj h
        exact .form (by simp)
  · intro h
    cases h with
    | form hform =>
        cases v with
        | object entries => exact absurd rfl (hform entries)
        | _ => rfl
    | parameters hform hgiven hparameters =>
        rw [hform]
        simp only [read, Value.entries?, Value.orElse, if_pos hgiven]

theorem Value.itemsOf_eq_error_iff {v : Value} {part : Part} {problem : Problem} :
    v.itemsOf part = .error problem ↔
      (v ≠ .null ∧ ∀ items, v ≠ .list items) ∧ problem = .notAList part := by
  unfold itemsOf
  split
  · simp
  · simp
  next hnull hlist =>
    have hform : v ≠ .null ∧ ∀ items, v ≠ .list items := ⟨hnull, hlist⟩
    rw [Except.error.injEq, eq_comm]
    exact (and_iff_right hform).symm

/-- What no empty list fulfils is fulfilled by a list in data just if its items fulfil it. -/
theorem Value.exists_list_iff {v : Value} {part : Part} {items : List Value}
    (h : v.itemsOf part = .ok items) {P : List Value → Prop} (hempty : ¬P []) :
    (∃ given, v = .list given ∧ P given) ↔ P items := by
  unfold itemsOf at h
  split at h
  · obtain rfl := Except.ok.inj h
    simp [hempty]
  · obtain rfl := Except.ok.inj h
    simp
  · cases h

namespace Trigger

/-- The kind of a trigger, read by itself. -/
def readKind (trigger : Entries) : Except Problem TriggerKind :=
  if !(trigger.field "type").isTruthy then .error .triggerKindMissing
  else
    match Vocabulary.find? (trigger.field "type") with
    | none => .error (.unknownTriggerKind (trigger.field "type"))
    | some kind => .ok kind

theorem read_eq (trigger : Entries) :
    read trigger = (readKind trigger).bind fun kind =>
      ((trigger.field "conditions").itemsOf .triggerConditions).bind fun items =>
        (items.mapM Condition.read).map fun conditions => ⟨.known kind, conditions⟩ := by
  unfold read readKind
  dsimp only
  split
  · rfl
  · cases (Vocabulary.find? (trigger.field "type") : Option TriggerKind) with
    | none => rfl
    | some kind => rfl

end Trigger

namespace Definition

section Pieces

variable {entries trigger : Entries} {piece : Piece} {problem : Problem}

theorem offends_kind_iff :
    Offends entries trigger .kind problem ↔ Trigger.readKind trigger = .error problem := by
  have hnone := @Vocabulary.find?_eq_none_iff _ _ TriggerKind.mem_members (trigger.field "type")
  unfold Trigger.readKind
  constructor
  · intro h
    cases h with
    | kindMissing hmissing => simp [hmissing]
    | kindUnknown hgiven hunknown => simp [hgiven, hnone.mpr hunknown]
  · intro h
    by_cases hgiven : (trigger.field "type").isTruthy = true
    · simp only [hgiven, Bool.not_true, Bool.false_eq_true, if_false] at h
      split at h
      next hunknown =>
        obtain rfl := Except.error.inj h
        exact .kindUnknown hgiven (hnone.mp hunknown)
      next => cases h
    · rw [Bool.not_eq_true] at hgiven
      rw [hgiven] at h
      obtain rfl := Except.error.inj h
      exact .kindMissing hgiven

theorem offends_conditions_iff :
    Offends entries trigger .conditions problem ↔
      (trigger.field "conditions").itemsOf .triggerConditions = .error problem := by
  rw [Value.itemsOf_eq_error_iff]
  constructor
  · intro h
    cases h with
    | conditions hgiven hform => exact ⟨⟨hgiven, hform⟩, rfl⟩
  · rintro ⟨⟨hgiven, hform⟩, rfl⟩
    exact .conditions hgiven hform

theorem offends_condition_iff {position : ℕ} :
    Offends entries trigger (.condition position) problem ↔
      ∃ items, trigger.field "conditions" = .list items ∧
        ∃ item, items[position]? = some item ∧ Condition.read item = .error problem := by
  constructor
  · intro h
    cases h with
    | condition hitems hposition hitem =>
        exact ⟨_, hitems, _, hposition, Condition.read_eq_error_iff.mpr hitem⟩
  · rintro ⟨items, hitems, item, hposition, hread⟩
    exact .condition hitems hposition (Condition.read_eq_error_iff.mp hread)

theorem offends_actions_iff :
    Offends entries trigger .actions problem ↔
      (entries.field "actions").itemsOf .actions = .error problem := by
  rw [Value.itemsOf_eq_error_iff]
  constructor
  · intro h
    cases h with
    | actions hgiven hform => exact ⟨⟨hgiven, hform⟩, rfl⟩
  · rintro ⟨⟨hgiven, hform⟩, rfl⟩
    exact .actions hgiven hform

theorem offends_action_iff {position : ℕ} :
    Offends entries trigger (.action position) problem ↔
      ∃ items, entries.field "actions" = .list items ∧
        ∃ item, items[position]? = some item ∧ Action.read item = .error problem := by
  constructor
  · intro h
    cases h with
    | action hitems hposition hitem =>
        exact ⟨_, hitems, _, hposition, Action.read_eq_error_iff.mpr hitem⟩
  · rintro ⟨items, hitems, item, hposition, hread⟩
    exact .action hitems hposition (Action.read_eq_error_iff.mp hread)

end Pieces

/-! ## The foremost piece -/

section Sweeps

variable {entries trigger : Entries} {α β : Type} {first middle last : ℕ}

/-- The result tells of the pieces from one stage up to another: that none of them offends, or
the problem of the foremost that does. -/
def Sweeps (entries trigger : Entries) (first last : ℕ) (result : Except Problem α) : Prop :=
  match result with
  | .ok _ => ∀ piece problem, first ≤ piece.stage → piece.stage < last →
      ¬Offends entries trigger piece problem
  | .error problem => ∃ piece : Piece, (first ≤ piece.stage ∧ piece.stage < last) ∧
      Offends entries trigger piece problem ∧
      ∀ other otherProblem, first ≤ other.stage → other.place < piece.place →
        ¬Offends entries trigger other otherProblem

theorem Sweeps.bind {result : Except Problem α} {next : α → Except Problem β}
    (hle : first ≤ middle ∧ middle ≤ last) (h : Sweeps entries trigger first middle result)
    (hnext : ∀ a, result = .ok a → Sweeps entries trigger middle last (next a)) :
    Sweeps entries trigger first last (result.bind next) := by
  cases result with
  | error problem =>
      obtain ⟨piece, ⟨hfrom, hto⟩, hoffends, hbefore⟩ := h
      exact ⟨piece, ⟨hfrom, by omega⟩, hoffends, hbefore⟩
  | ok a =>
      have hrest := hnext a rfl
      change Sweeps entries trigger first last (next a)
      cases hresult : next a with
      | error problem =>
          rw [hresult] at hrest
          obtain ⟨piece, ⟨hfrom, hto⟩, hoffends, hbefore⟩ := hrest
          refine ⟨piece, ⟨by omega, hto⟩, hoffends, ?_⟩
          intro other otherProblem hother hplace
          -- what stands in an earlier stage was found sound by the first step
          by_cases hstage : other.stage < middle
          · exact h other otherProblem hother hstage
          · exact hbefore other otherProblem (Nat.le_of_not_lt hstage) hplace
      | ok b =>
          rw [hresult] at hrest
          intro piece problem hfrom hto
          by_cases hstage : piece.stage < middle
          · exact h piece problem hfrom hstage
          · exact hrest piece problem (Nat.le_of_not_lt hstage) hto

theorem Sweeps.map {result : Except Problem α} (f : α → β)
    (h : Sweeps entries trigger first last result) :
    Sweeps entries trigger first last (result.map f) := by
  cases result with
  | error problem => exact h
  | ok a => exact h

/-- A stage of a single piece. -/
theorem Sweeps.single {result : Except Problem α} {piece : Piece}
    (halone : ∀ other : Piece, other.stage = piece.stage → other = piece)
    (h : ∀ problem, Offends entries trigger piece problem ↔ result = .error problem) :
    Sweeps entries trigger piece.stage (piece.stage + 1) result := by
  cases result with
  | ok a =>
      intro other problem hfrom hto hoffends
      obtain rfl := halone other (by omega)
      cases (h problem).mp hoffends
  | error problem =>
      refine ⟨piece, by omega, (h problem).mpr rfl, ?_⟩
      intro other otherProblem hfrom hplace
      have hstage : other.stage = piece.stage := by
        rcases Prod.Lex.toLex_lt_toLex.mp hplace with hlt | ⟨heq, -⟩
        · exact absurd hlt (Nat.not_lt.mpr hfrom)
        · exact heq
      obtain rfl := halone other hstage
      exact absurd hplace (lt_irrefl _)

/-- A stage with a piece for each item of a row. -/
theorem Sweeps.row {f : Value → Except Problem α} {items : List Value} (stage : ℕ)
    (part : ℕ → Piece) (hposition : ∀ position, (part position).place = toLex (stage, position))
    (hparts : ∀ piece : Piece, piece.stage = stage → piece = part piece.position)
    (h : ∀ position problem, Offends entries trigger (part position) problem ↔
      ∃ item, items[position]? = some item ∧ f item = .error problem) :
    Sweeps entries trigger stage (stage + 1) (items.mapM f) := by
  have hstage : ∀ position, (part position).stage = stage :=
    fun position => congrArg Prod.fst (hposition position)
  rcases mapM_foremost f items with
    ⟨results, hrow, hall⟩ | ⟨position, item, problem, hitem, hfails, hrow, hbefore⟩
  · rw [hrow]
    intro piece problem hfrom hto hoffends
    rw [hparts piece (by omega), h] at hoffends
    obtain ⟨item, hitem, hfails⟩ := hoffends
    obtain ⟨result, hok⟩ := hall item (List.mem_of_getElem? hitem)
    rw [hok] at hfails
    cases hfails
  · rw [hrow]
    have hfrom := hstage position
    refine ⟨part position, by omega, (h position problem).mpr ⟨item, hitem, hfails⟩, ?_⟩
    intro other otherProblem hother hplace hoffends
    rw [hposition] at hplace
    rcases Prod.Lex.toLex_lt_toLex.mp hplace with hlt | ⟨heq, hearlier⟩
    · exact absurd hlt (Nat.not_lt.mpr hother)
    · -- an earlier item of the row, which was read before this one was reached
      rw [hparts other heq, h] at hoffends
      obtain ⟨otherItem, hotherItem, hotherFails⟩ := hoffends
      obtain ⟨result, hok⟩ := hbefore other.position hearlier otherItem hotherItem
      rw [hok] at hotherFails
      cases hotherFails

theorem sweeps_trigger : Sweeps entries trigger 0 3 (Trigger.read trigger) := by
  rw [Trigger.read_eq]
  have hkind : Sweeps entries trigger 0 1 (Trigger.readKind trigger) := by
    apply @Sweeps.single _ _ _ _ .kind
    · intro other hstage
      cases other with
      | kind => rfl
      | _ => cases hstage
    · exact fun problem => offends_kind_iff
  have hform : Sweeps entries trigger 1 2
      ((trigger.field "conditions").itemsOf .triggerConditions) := by
    apply @Sweeps.single _ _ _ _ .conditions
    · intro other hstage
      cases other with
      | conditions => rfl
      | _ => cases hstage
    · exact fun problem => offends_conditions_iff
  apply hkind.bind (by omega)
  intro kind _
  apply hform.bind (by omega)
  intro items hitems
  apply Sweeps.map
  apply Sweeps.row 2 .condition (fun position => rfl)
  · intro piece hstage
    cases piece with
    | condition position => rfl
    | _ => cases hstage
  · intro position problem
    rw [offends_condition_iff, Value.exists_list_iff hitems (by simp)]

theorem sweeps_parts : Sweeps entries trigger 0 5 (readParts entries trigger) := by
  have hform : Sweeps entries trigger 3 4 ((entries.field "actions").itemsOf .actions) := by
    apply @Sweeps.single _ _ _ _ .actions
    · intro other hstage
      cases other with
      | actions => rfl
      | _ => cases hstage
    · exact fun problem => offends_actions_iff
  apply sweeps_trigger.bind (by omega)
  intro t _
  apply hform.bind (by omega)
  intro items hitems
  apply @Sweeps.map _ _ _ _ _ _ (items.mapM Action.read) fun actions => (t, actions)
  apply Sweeps.row 4 .action (fun position => rfl)
  · intro piece hstage
    cases piece with
    | action position => rfl
    | _ => cases hstage
  · intro position problem
    rw [offends_action_iff, Value.exists_list_iff hitems (by simp)]

end Sweeps

theorem Piece.stage_lt (piece : Piece) : piece.stage < 5 := by
  cases piece with
  | _ => simp [stage]

section Parts

variable {entries trigger : Entries} {problem : Problem}

theorem exists_foremost (h : readParts entries trigger = .error problem) :
    ∃ piece, Foremost entries trigger piece problem := by
  have hsweeps := @sweeps_parts entries trigger
  rw [h] at hsweeps
  obtain ⟨piece, -, hoffends, hbefore⟩ := hsweeps
  refine ⟨piece, hoffends, ?_⟩
  intro other otherProblem hother
  by_contra hplace
  exact hbefore other otherProblem (Nat.zero_le _) (lt_of_not_ge hplace) hother

theorem not_offends_of_readParts {parts : Trigger × List Action}
    (h : readParts entries trigger = .ok parts) (piece : Piece) :
    ¬Offends entries trigger piece problem := by
  have hsweeps := @sweeps_parts entries trigger
  rw [h] at hsweeps
  exact hsweeps piece problem (Nat.zero_le _) piece.stage_lt

theorem Piece.place_injective : Function.Injective Piece.place := by
  intro piece other h
  obtain ⟨hstage, hposition⟩ := Prod.mk.inj (toLex_inj.mp h)
  cases piece <;> cases other <;> simp_all [stage, position]

theorem Offends.unique {piece : Piece} {other : Problem}
    (h : Offends entries trigger piece problem) (hother : Offends entries trigger piece other) :
    problem = other := by
  cases piece with
  | kind =>
      rw [offends_kind_iff] at h hother
      exact Except.error.inj (h.symm.trans hother)
  | conditions =>
      rw [offends_conditions_iff] at h hother
      exact Except.error.inj (h.symm.trans hother)
  | condition position =>
      obtain ⟨items, hitems, item, hitem, hread⟩ := offends_condition_iff.mp h
      obtain ⟨_, hitems', _, hitem', hread'⟩ := offends_condition_iff.mp hother
      obtain rfl := Value.list.inj (hitems.symm.trans hitems')
      obtain rfl := Option.some.inj (hitem.symm.trans hitem')
      exact Except.error.inj (hread.symm.trans hread')
  | actions =>
      rw [offends_actions_iff] at h hother
      exact Except.error.inj (h.symm.trans hother)
  | action position =>
      obtain ⟨items, hitems, item, hitem, hread⟩ := offends_action_iff.mp h
      obtain ⟨_, hitems', _, hitem', hread'⟩ := offends_action_iff.mp hother
      obtain rfl := Value.list.inj (hitems.symm.trans hitems')
      obtain rfl := Option.some.inj (hitem.symm.trans hitem')
      exact Except.error.inj (hread.symm.trans hread')

theorem readParts_eq_error_iff :
    readParts entries trigger = .error problem ↔
      ∃ piece, Foremost entries trigger piece problem := by
  constructor
  · exact exists_foremost
  · rintro ⟨piece, hforemost⟩
    cases hparts : readParts entries trigger with
    | ok parts => exact absurd hforemost.offends (not_offends_of_readParts hparts piece)
    | error reported =>
        obtain ⟨other, hother⟩ := exists_foremost hparts
        have hplace : other.place = piece.place :=
          le_antisymm (hother.first _ _ hforemost.offends) (hforemost.first _ _ hother.offends)
        obtain rfl := Piece.place_injective hplace
        rw [hother.offends.unique hforemost.offends]

theorem exists_readParts_iff :
    (∃ parts, readParts entries trigger = .ok parts) ↔
      ∀ piece problem, ¬Offends entries trigger piece problem := by
  constructor
  · rintro ⟨parts, hparts⟩ piece problem
    exact not_offends_of_readParts hparts piece
  · intro h
    cases hparts : readParts entries trigger with
    | ok parts => exact ⟨parts, rfl⟩
    | error problem =>
        obtain ⟨piece, hforemost⟩ := exists_foremost hparts
        exact absurd hforemost.offends (h piece problem)

end Parts

/-! ## Whole payloads -/

/-- How a payload is taken, whatever it is: read, or refused with one problem. -/
structure Taken (v : Value) : Prop where
  form : (∀ entries, v ≠ .object entries) → read v = .error (.single (.notAnObject .definition))
  trigger : ∀ entries : Entries, v = .object entries →
    (∀ trigger, entries.field "trigger" ≠ .object trigger) →
      read v = .error ⟨[.triggerMissing], entries.field "id"⟩
  refused : ∀ entries trigger : Entries, v = .object entries →
    entries.field "trigger" = .object trigger → ∀ invalid,
      read v = .error invalid ↔ ∃ piece problem, Foremost entries trigger piece problem ∧
        invalid = ⟨[problem], entries.field "id"⟩
  read : ∀ entries trigger : Entries, v = .object entries →
    entries.field "trigger" = .object trigger →
      ((∃ d, read v = .ok d) ↔ ∀ piece problem, ¬Offends entries trigger piece problem)

/-- The definition that a payload's own entries make of its parts. -/
def ofParts (entries : Entries) (parts : Trigger × List Action) : Definition where
  id := (entries.field "id").orElse (.text "")
  name := (entries.field "name").orElse (.text "")
  description := (entries.field "description").orElse (.text "")
  trigger := some parts.1
  actions := parts.2

theorem read_object {entries trigger : Entries} (h : entries.field "trigger" = .object trigger) :
    read (.object entries)
      = ((readParts entries trigger).mapError fun problem => ⟨[problem], entries.field "id"⟩).map
          (ofParts entries) := by
  unfold read
  simp only [Value.entries?, h]
  cases readParts entries trigger with
  | ok parts => rfl
  | error problem => rfl

theorem exists_of_readParts {entries trigger : Entries} {parts : Trigger × List Action}
    (h : readParts entries trigger = .ok parts) :
    Trigger.read trigger = .ok parts.1 ∧ ∃ items,
      (entries.field "actions").itemsOf .actions = .ok items ∧
        items.mapM Action.read = .ok parts.2 := by
  unfold readParts at h
  obtain ⟨t, htrigger, h⟩ := bind_eq_ok h
  obtain ⟨items, hitems, h⟩ := bind_eq_ok h
  obtain ⟨actions, hactions, h⟩ := bind_eq_ok h
  obtain rfl := Except.ok.inj h
  exact ⟨htrigger, items, hitems, hactions⟩

/-- A definition that was read was put together from the parts of an object. -/
theorem exists_parts_of_read {v : Value} {d : Definition} (h : read v = .ok d) :
    ∃ entries trigger parts, v = .object entries ∧
      Entries.field entries "trigger" = .object trigger ∧
      readParts entries trigger = .ok parts ∧ d = ofParts entries parts := by
  cases v with
  | object entries =>
      by_cases htrigger : ∃ trigger, Entries.field entries "trigger" = .object trigger
      · obtain ⟨trigger, htrigger⟩ := htrigger
        rw [read_object htrigger] at h
        cases hparts : readParts entries trigger with
        | error problem =>
            rw [hparts] at h
            cases h
        | ok parts =>
            rw [hparts] at h
            exact ⟨entries, trigger, parts, rfl, htrigger, hparts, (Except.ok.inj h).symm⟩
      · push Not at htrigger
        unfold read at h
        simp only [Value.entries?] at h
        cases h
  | _ => cases h

theorem taken (v : Value) : Taken v where
  form := by
    intro hform
    cases v with
    | object entries => exact absurd rfl (hform entries)
    | _ => rfl
  trigger := by
    rintro entries rfl htrigger
    unfold read
    simp only [Value.entries?]
  refused := by
    rintro entries trigger rfl htrigger invalid
    rw [read_object htrigger]
    constructor
    · intro h
      cases hparts : readParts entries trigger with
      | ok parts =>
          rw [hparts] at h
          cases h
      | error problem =>
          rw [hparts] at h
          obtain ⟨piece, hforemost⟩ := exists_foremost hparts
          exact ⟨piece, problem, hforemost, (Except.error.inj h).symm⟩
    · rintro ⟨piece, problem, hforemost, rfl⟩
      rw [readParts_eq_error_iff.mpr ⟨piece, hforemost⟩]
      rfl
  read := by
    rintro entries trigger rfl htrigger
    rw [read_object htrigger, ← exists_readParts_iff]
    cases readParts entries trigger with
    | ok parts => simp [Except.map, Except.mapError]
    | error problem => simp [Except.map, Except.mapError]

end Definition

end CaseWorkflow
