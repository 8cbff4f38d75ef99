import CaseWorkflow.Definition.Validation
import CaseWorkflow.Proofs.Number.Order
import Mathlib.Data.List.Sort
import Mathlib.Data.String.Basic

/-!
# The rules of definitions

The rules that a definition has to keep are told one by one, each with the problem that reports
a breach of it, and the problems have an order.  Validation lists the problems of exactly the
broken rules, each once and in this order, and lets pass what breaks none.
-/

namespace CaseWorkflow

/-! ## Rules -/

/-- Not-a-number is neither above zero nor up to it. -/
def Number.IsUpToZero (x : Number) : Prop := ∃ p, x.place? = some p ∧ p.rank ≤ 0

/-- A parameter is missing if it is absent, null or the empty text. -/
def Entries.Lacks (parameters : Entries) (name : String) : Prop :=
  parameters.field name = .null ∨ (parameters.field name).text? = some ""

/-- The rules for the parameters of an action of a known kind.  How an owner is chosen is looked
at only where nothing is missing. -/
inductive ActionKind.Breaks (kind : ActionKind) (parameters : Entries) : ActionProblem → Prop
  | missing {names : List String} (hne : names ≠ []) (hsorted : names.SortedLT)
      (hnames : ∀ name, name ∈ names ↔ name ∈ kind.requiredParameters ∧ parameters.Lacks name) :
      kind.Breaks parameters (.parametersMissing kind names)
  | method (hkind : kind = .assignOwner)
      (hgiven : ∀ name ∈ kind.requiredParameters, ¬parameters.Lacks name)
      (hmethod : ∀ method ∈ assignmentMethods, (parameters.field "metodo").text? ≠ some method) :
      kind.Breaks parameters (.unknownMethod (parameters.field "metodo"))
  | user (hkind : kind = .assignOwner)
      (hgiven : ∀ name ∈ kind.requiredParameters, ¬parameters.Lacks name)
      (hmethod : (parameters.field "metodo").text? = some "especifico")
      (huser : (parameters.field "usuario_id").isTruthy = false) :
      kind.Breaks parameters .methodNeedsUser

/-- The rules for an action.  Where its kind is blank nothing else is looked at. -/
inductive Action.Breaks (a : Action) : ActionProblem → Prop
  | kind (hkind : a.kind.isBlank = true) : a.Breaks .kindMissing
  | timeoutForm (hkind : a.kind.isBlank = false) (hgiven : a.timeout ≠ .null)
      (hform : a.timeout.properNumber? = none) : a.Breaks .timeoutNotNumber
  | timeoutSpan {seconds : Number} (hkind : a.kind.isBlank = false)
      (hform : a.timeout.properNumber? = some seconds) (hspan : seconds.IsUpToZero) :
      a.Breaks .timeoutNotPositive
  | parametersForm (hkind : a.kind.isBlank = false)
      (hform : ∀ parameters, a.parameters ≠ .object parameters) : a.Breaks .parametersNotObject
  | parameters {entries : Entries} {kind : ActionKind} {problem : ActionProblem}
      (hkind : a.kind.isBlank = false) (hform : a.parameters = .object entries)
      (hknown : a.knownKind? = some kind) (hbreaks : kind.Breaks entries problem) :
      a.Breaks problem

inductive Definition.Breaks (d : Definition) : Problem → Prop
  | id (h : d.id.isBlank = true) : d.Breaks .idMissing
  | name (h : d.name.isBlank = true) : d.Breaks .nameMissing
  | description (h : d.description.text? = none) : d.Breaks .descriptionNotText
  | trigger (h : ∀ kind conditions, d.trigger ≠ some ⟨.known kind, conditions⟩) :
      d.Breaks .triggerKindMissing
  | conditionField {kind : TriggerKind} {conditions : List Condition} {position : ℕ}
      {c : Condition} (htrigger : d.trigger = some ⟨.known kind, conditions⟩)
      (hposition : conditions[position]? = some c) (hfield : c.field.isBlank = true) :
      d.Breaks (.conditionFieldMissing position)
  | conditionOperator {kind : TriggerKind} {conditions : List Condition} {position : ℕ}
      {c : Condition} {v : Value} (htrigger : d.trigger = some ⟨.known kind, conditions⟩)
      (hposition : conditions[position]? = some c) (hoperator : c.operator = .other v) :
      d.Breaks (.conditionOperatorUnknown position v)
  | noActions (h : d.actions = []) : d.Breaks .noActions
  | action {position : ℕ} {a : Action} {problem : ActionProblem}
      (hposition : d.actions[position]? = some a) (hbreaks : a.Breaks problem) :
      d.Breaks (.action position problem)

/-! ## The order of problems -/

/-- Of an action, first what is wrong with its kind, then with its timeout, then with its
parameters. -/
def ActionProblem.place : ActionProblem → ℕ
  | .kindMissing => 0
  | .timeoutNotNumber | .timeoutNotPositive => 1
  | .parametersNotObject | .parametersMissing .. | .unknownMethod _ | .methodNeedsUser => 2

/-- The part of a definition, the position of a condition or an action in it, and the place
there. -/
def Problem.place : Problem → ℕ ×ₗ ℕ ×ₗ ℕ
  | .idMissing => toLex (0, toLex (0, 0))
  | .nameMissing => toLex (1, toLex (0, 0))
  | .descriptionNotText => toLex (2, toLex (0, 0))
  | .triggerKindMissing => toLex (3, toLex (0, 0))
  | .conditionFieldMissing position => toLex (3, toLex (position, 0))
  | .conditionOperatorUnknown position _ => toLex (3, toLex (position, 1))
  | .noActions => toLex (4, toLex (0, 0))
  | .action position problem => toLex (5, toLex (position, problem.place))
  | _ => toLex (6, toLex (0, 0))

def Problem.part (problem : Problem) : ℕ := (ofLex problem.place).1

theorem Problem.place_lt_of_part_lt {p q : Problem} (h : p.part < q.part) : p.place < q.place :=
  Prod.Lex.lt_iff.mpr (.inl h)

/-- Problems in order, with no two at one place. -/
def Problem.InSequence (problems : List Problem) : Prop :=
  problems.Pairwise fun p q => p.place < q.place

/-! ## Definitions in order -/

structure Action.InOrder (a : Action) : Prop where
  kind : a.kind.isBlank = false
  timeout : a.timeout = .null ∨
    ∃ seconds, a.timeout.properNumber? = some seconds ∧ ¬seconds.IsUpToZero
  parameters : ∃ parameters : Entries, a.parameters = .object parameters ∧
    ∀ kind, a.knownKind? = some kind →
      (∀ name ∈ kind.requiredParameters, ¬parameters.Lacks name) ∧
        (kind = .assignOwner → ∃ method ∈ assignmentMethods,
          (parameters.field "metodo").text? = some method ∧
            (method = "especifico" → (parameters.field "usuario_id").isTruthy = true))

structure Condition.InOrder (c : Condition) : Prop where
  field : c.field.isBlank = false
  operator : ∃ operator, c.operator = .known operator

structure Definition.InOrder (d : Definition) : Prop where
  id : d.id.isBlank = false
  name : d.name.isBlank = false
  description : ∃ text, d.description.text? = some text
  trigger : ∃ kind conditions, d.trigger = some ⟨.known kind, conditions⟩ ∧
    ∀ c ∈ conditions, c.InOrder
  actions_ne : d.actions ≠ []
  actions : ∀ a ∈ d.actions, a.InOrder

/-! ## Actions -/

theorem Number.le_zero_iff (x : Number) : x.le (.int 0) = true ↔ x.IsUpToZero := by
  have hzero : (Number.int 0).place? = some (.on ⟨0, 0⟩) := rfl
  have hrank : (Place.on ⟨0, 0⟩).rank = 0 := by simp [Place.rank, BinaryFraction.value]
  cases hplace : x.place? with
  | none => simp [le, lt, eq, cmp?, IsUpToZero, hplace]
  | some p => simp [le_iff hplace hzero, IsUpToZero, hplace, hrank]

theorem Action.lacks_iff (parameters : Entries) (name : String) :
    lacks parameters name = true ↔ parameters.Lacks name := by
  unfold lacks Entries.Lacks
  cases parameters.field name <;> simp [Value.text?]

theorem ActionKind.sortedLT_requiredParameters (kind : ActionKind) :
    kind.requiredParameters.SortedLT := by
  cases kind <;> decide

namespace Action

variable {a : Action} {kind : ActionKind} {parameters : Entries} {problem : ActionProblem}

theorem mem_timeoutProblems {timeout : Value} :
    problem ∈ timeoutProblems timeout ↔
      (problem = .timeoutNotNumber ∧ timeout ≠ .null ∧ timeout.properNumber? = none) ∨
        (problem = .timeoutNotPositive ∧
          ∃ seconds, timeout.properNumber? = some seconds ∧ seconds.IsUpToZero) := by
  unfold timeoutProblems
  cases hform : timeout.properNumber? with
  | none => cases timeout <;> simp_all [Value.isNull, Value.properNumber?]
  | some seconds =>
      by_cases hspan : seconds.le (.int 0) = true
      · simp [hspan, ← Number.le_zero_iff]
      · simp [hspan, ← Number.le_zero_iff]

theorem mem_assignmentProblems :
    problem ∈ assignmentProblems parameters ↔
      (problem = .unknownMethod (parameters.field "metodo") ∧
        ∀ method ∈ assignmentMethods, (parameters.field "metodo").text? ≠ some method) ∨
      (problem = .methodNeedsUser ∧ (parameters.field "metodo").text? = some "especifico" ∧
        (parameters.field "usuario_id").isTruthy = false) := by
  have hspecific : "especifico" ∈ assignmentMethods := by decide
  unfold assignmentProblems
  generalize (parameters.field "usuario_id").isTruthy = user
  generalize parameters.field "metodo" = given
  dsimp only
  cases hmethod : given.text? with
  | none => simp
  | some method =>
      have hunknown : (∀ known ∈ assignmentMethods, some method ≠ some known) ↔
          method ∉ assignmentMethods := by
        constructor
        · exact fun h hmem => h method hmem rfl
        · exact fun h known hknown heq => h (Option.some.inj heq ▸ hknown)
      rw [hunknown]
      by_cases hmem : method ∈ assignmentMethods
      · by_cases huser : method = "especifico"
        · cases user <;> simp [huser, hspecific]
        · simp [hmem, huser]
      · have hne : method ≠ "especifico" := fun heq => hmem (heq ▸ hspecific)
        simp [hmem, hne]

theorem mem_missing {name : String} :
    name ∈ kind.requiredParameters.filter (lacks parameters) ↔
      name ∈ kind.requiredParameters ∧ parameters.Lacks name := by
  rw [List.mem_filter, lacks_iff]

theorem parameterProblems_of_missing
    (h : kind.requiredParameters.filter (lacks parameters) ≠ []) :
    parameterProblems kind parameters
      = [.parametersMissing kind (kind.requiredParameters.filter (lacks parameters))] := by
  unfold parameterProblems
  split
  next hnone => exact absurd hnone h
  next => rfl

theorem parameterProblems_of_given
    (h : kind.requiredParameters.filter (lacks parameters) = []) :
    parameterProblems kind parameters
      = if kind = .assignOwner then assignmentProblems parameters else [] := by
  rw [parameterProblems, h]

theorem missing_eq_nil_iff :
    kind.requiredParameters.filter (lacks parameters) = [] ↔
      ∀ name ∈ kind.requiredParameters, ¬parameters.Lacks name := by
  simp only [List.filter_eq_nil_iff, lacks_iff]

theorem mem_parameterProblems :
    problem ∈ parameterProblems kind parameters ↔ kind.Breaks parameters problem := by
  by_cases hmissing : kind.requiredParameters.filter (lacks parameters) = []
  · have hgiven := missing_eq_nil_iff.mp hmissing
    rw [parameterProblems_of_given hmissing]
    constructor
    · intro h
      by_cases hkind : kind = .assignOwner
      · rw [if_pos hkind, mem_assignmentProblems] at h
        rcases h with ⟨rfl, hmethod⟩ | ⟨rfl, hmethod, huser⟩
        · exact .method hkind hgiven hmethod
        · exact .user hkind hgiven hmethod huser
      · simp [hkind] at h
    · intro h
      cases h with
      | missing hne hsorted hnames =>
          obtain ⟨name, hname⟩ := List.exists_mem_of_ne_nil _ hne
          obtain ⟨hrequired, hlacks⟩ := (hnames name).mp hname
          exact absurd hlacks (hgiven name hrequired)
      | method hkind _ hmethod =>
          rw [if_pos hkind, mem_assignmentProblems]
          exact .inl ⟨rfl, hmethod⟩
      | user hkind _ hmethod huser =>
          rw [if_pos hkind, mem_assignmentProblems]
          exact .inr ⟨rfl, hmethod, huser⟩
  · have hsorted : (kind.requiredParameters.filter (lacks parameters)).SortedLT :=
      (kind.sortedLT_requiredParameters.pairwise.filter _).sortedLT
    rw [parameterProblems_of_missing hmissing, List.mem_singleton]
    constructor
    · intro h
      rw [h]
      exact .missing hmissing hsorted fun _ => mem_missing
    · intro h
      cases h with
      | missing hne hnamesSorted hnames =>
          have heq := hnamesSorted.eq_of_mem_iff hsorted fun name => by
            rw [hnames, mem_missing]
          rw [heq]
      | method _ hgiven _ => exact absurd (missing_eq_nil_iff.mpr hgiven) hmissing
      | user _ hgiven _ _ => exact absurd (missing_eq_nil_iff.mpr hgiven) hmissing

/-- What is wrong with the parameters of an action, of which its kind tells what they need. -/
def formProblems (a : Action) : List ActionProblem :=
  match a.parameters.entries? with
  | some parameters =>
    match a.knownKind? with
    | some kind => parameterProblems kind parameters
    | none => []
  | none => [.parametersNotObject]

theorem problems_of_blank (h : a.kind.isBlank = true) : a.problems = [.kindMissing] := by
  rw [problems, if_pos h]

theorem problems_of_not_blank (h : a.kind.isBlank = false) :
    a.problems = timeoutProblems a.timeout ++ a.formProblems := by
  rw [problems, if_neg (by simp [h])]
  rfl

theorem mem_formProblems :
    problem ∈ a.formProblems ↔
      (problem = .parametersNotObject ∧ ∀ parameters, a.parameters ≠ .object parameters) ∨
        ∃ entries kind, a.parameters = .object entries ∧ a.knownKind? = some kind ∧
          kind.Breaks entries problem := by
  unfold formProblems
  cases a.parameters with
  | object entries =>
      cases a.knownKind? with
      | none => simp [Value.entries?]
      | some kind => simp [Value.entries?, mem_parameterProblems]
  | _ => simp [Value.entries?]

theorem length_assignmentProblems_le (parameters : Entries) :
    (assignmentProblems parameters).length ≤ 1 := by
  unfold assignmentProblems
  dsimp only
  split
  · simp
  · split <;> simp

theorem length_parameterProblems_le (kind : ActionKind) (parameters : Entries) :
    (parameterProblems kind parameters).length ≤ 1 := by
  by_cases hmissing : kind.requiredParameters.filter (lacks parameters) = []
  · rw [parameterProblems_of_given hmissing]
    split
    · exact length_assignmentProblems_le parameters
    · simp
  · simp [parameterProblems_of_missing hmissing]

theorem length_formProblems_le (a : Action) : a.formProblems.length ≤ 1 := by
  unfold formProblems
  split
  · split
    · exact length_parameterProblems_le _ _
    · simp
  · simp

theorem place_of_mem_timeoutProblems {timeout : Value} (h : problem ∈ timeoutProblems timeout) :
    problem.place = 1 := by
  rcases mem_timeoutProblems.mp h with ⟨rfl, -⟩ | ⟨rfl, -⟩ <;> rfl

theorem place_of_mem_formProblems (h : problem ∈ a.formProblems) : problem.place = 2 := by
  rcases mem_formProblems.mp h with ⟨rfl, -⟩ | ⟨entries, kind, -, -, hbreaks⟩
  · rfl
  · cases hbreaks <;> rfl

/-- The problems of an action are those of the rules that it breaks. -/
theorem mem_problems : problem ∈ a.problems ↔ a.Breaks problem := by
  by_cases hkind : a.kind.isBlank = true
  · rw [problems_of_blank hkind, List.mem_singleton]
    constructor
    · intro h
      rw [h]
      exact .kind hkind
    · intro h
      cases h with
      | kind => rfl
      | timeoutForm hblank | timeoutSpan hblank | parametersForm hblank | parameters hblank =>
          rw [hkind] at hblank
          cases hblank
  · rw [Bool.not_eq_true] at hkind
    rw [problems_of_not_blank hkind, List.mem_append, mem_timeoutProblems, mem_formProblems]
    constructor
    · intro h
      rcases h with (⟨rfl, hgiven, hform⟩ | ⟨rfl, seconds, hform, hspan⟩) |
        ⟨rfl, hform⟩ | ⟨entries, kind, hform, hknown, hbreaks⟩
      · exact .timeoutForm hkind hgiven hform
      · exact .timeoutSpan hkind hform hspan
      · exact .parametersForm hkind hform
      · exact .parameters hkind hform hknown hbreaks
    · intro h
      cases h with
      | kind hblank =>
          rw [hkind] at hblank
          cases hblank
      | timeoutForm _ hgiven hform => exact .inl (.inl ⟨rfl, hgiven, hform⟩)
      | timeoutSpan _ hform hspan => exact .inl (.inr ⟨rfl, _, hform, hspan⟩)
      | parametersForm _ hform => exact .inr (.inl ⟨rfl, hform⟩)
      | parameters _ hform hknown hbreaks => exact .inr (.inr ⟨_, _, hform, hknown, hbreaks⟩)

theorem pairwise_problems (a : Action) :
    a.problems.Pairwise fun p q => p.place < q.place := by
  by_cases hkind : a.kind.isBlank = true
  · rw [problems_of_blank hkind]
    exact List.pairwise_singleton _ _
  · rw [Bool.not_eq_true] at hkind
    rw [problems_of_not_blank hkind, List.pairwise_append]
    refine ⟨?_, ?_, ?_⟩
    · unfold timeoutProblems
      split
      · split <;> simp
      · split <;> simp
    · match hproblems : a.formProblems, a.length_formProblems_le with
      | [], _ => exact .nil
      | [_], _ => exact List.pairwise_singleton _ _
    · intro p hp q hq
      rw [place_of_mem_timeoutProblems hp, place_of_mem_formProblems hq]
      decide

end Action

/-! ## Rows of conditions and actions -/

section Rows

variable {α β : Type} {f : ℕ → α → List β} {row : List α}

theorem mem_flatten_mapIdx {b : β} :
    b ∈ (row.mapIdx f).flatten ↔ ∃ position a, row[position]? = some a ∧ b ∈ f position a := by
  rw [List.mem_flatten]
  constructor
  · intro h
    obtain ⟨problems, hproblems, hb⟩ := h
    obtain ⟨position, hposition, rfl⟩ := List.mem_mapIdx.mp hproblems
    exact ⟨position, _, List.getElem?_eq_getElem hposition, hb⟩
  · intro h
    obtain ⟨position, a, ha, hb⟩ := h
    obtain ⟨hposition, rfl⟩ := List.getElem?_eq_some_iff.mp ha
    exact ⟨_, List.mem_mapIdx.mpr ⟨position, hposition, rfl⟩, hb⟩

/-- What is said of each of a row comes in order if what is said of one does and what is said of
earlier ones comes first. -/
theorem pairwise_flatten_mapIdx {R : β → β → Prop} (hown : ∀ position a, (f position a).Pairwise R)
    (hothers : ∀ position later a b, position < later →
      ∀ x ∈ f position a, ∀ y ∈ f later b, R x y) :
    (row.mapIdx f).flatten.Pairwise R := by
  rw [List.pairwise_flatten]
  constructor
  · intro problems hproblems
    obtain ⟨position, hposition, rfl⟩ := List.mem_mapIdx.mp hproblems
    exact hown position _
  · rw [List.pairwise_iff_getElem]
    intro position later hposition hlater hlt
    rw [List.getElem_mapIdx, List.getElem_mapIdx]
    exact hothers position later _ _ hlt

end Rows

theorem Condition.mem_problems {c : Condition} {position : ℕ} {problem : Problem} :
    problem ∈ c.problems position ↔
      (problem = .conditionFieldMissing position ∧ c.field.isBlank = true) ∨
        ∃ v, problem = .conditionOperatorUnknown position v ∧ c.operator = .other v := by
  unfold problems
  cases c.operator <;> by_cases hfield : c.field.isBlank = true <;> simp [hfield]

theorem Condition.inSequence_problems (c : Condition) (position : ℕ) :
    Problem.InSequence (c.problems position) := by
  unfold problems Problem.InSequence
  cases c.operator <;> by_cases hfield : c.field.isBlank = true <;>
    simp [hfield, Problem.place, Prod.Lex.toLex_lt_toLex]

theorem Condition.place_of_mem_problems {c : Condition} {position : ℕ} {problem : Problem}
    (h : problem ∈ c.problems position) :
    ∃ place, problem.place = toLex (3, toLex (position, place)) := by
  rcases mem_problems.mp h with ⟨rfl, -⟩ | ⟨v, rfl, -⟩
  · exact ⟨0, rfl⟩
  · exact ⟨1, rfl⟩

namespace Definition

variable {d : Definition} {problem : Problem}

/-! ## Parts of a definition -/

theorem mem_headProblems :
    problem ∈ d.headProblems ↔
      (problem = .idMissing ∧ d.id.isBlank = true) ∨
      (problem = .nameMissing ∧ d.name.isBlank = true) ∨
      (problem = .descriptionNotText ∧ d.description.text? = none) := by
  unfold headProblems
  by_cases hid : d.id.isBlank = true <;> by_cases hname : d.name.isBlank = true <;>
    cases hdescription : d.description.text? <;> simp [hid, hname]

theorem part_lt_of_mem_headProblems (h : problem ∈ d.headProblems) : problem.part < 3 := by
  rcases mem_headProblems.mp h with ⟨rfl, -⟩ | ⟨rfl, -⟩ | ⟨rfl, -⟩ <;> decide

theorem inSequence_headProblems (d : Definition) : Problem.InSequence d.headProblems := by
  unfold headProblems Problem.InSequence
  by_cases hid : d.id.isBlank = true <;> by_cases hname : d.name.isBlank = true <;>
    cases d.description.text? <;>
      simp [hid, hname, Problem.place, Prod.Lex.toLex_lt_toLex]

theorem mem_triggerProblems :
    problem ∈ d.triggerProblems ↔
      (problem = .triggerKindMissing ∧
        ∀ kind conditions, d.trigger ≠ some ⟨.known kind, conditions⟩) ∨
      ∃ kind conditions position c, d.trigger = some ⟨.known kind, conditions⟩ ∧
        conditions[position]? = some c ∧ problem ∈ Condition.problems position c := by
  unfold triggerProblems
  cases d.trigger with
  | none => simp
  | some trigger =>
      obtain ⟨kind, conditions⟩ := trigger
      cases kind with
      | known kind =>
          dsimp only
          rw [mem_flatten_mapIdx]
          simp
      | other v => simp

theorem part_of_mem_triggerProblems (h : problem ∈ d.triggerProblems) : problem.part = 3 := by
  rcases mem_triggerProblems.mp h with ⟨rfl, -⟩ | ⟨kind, conditions, position, c, -, -, hc⟩
  · rfl
  · obtain ⟨place, hplace⟩ := Condition.place_of_mem_problems hc
    rw [Problem.part, hplace]
    rfl

theorem inSequence_triggerProblems (d : Definition) : Problem.InSequence d.triggerProblems := by
  unfold triggerProblems
  split
  · apply pairwise_flatten_mapIdx
    · exact fun position c => c.inSequence_problems position
    · intro position later c c' hlt p hp q hq
      obtain ⟨place, hplace⟩ := Condition.place_of_mem_problems hp
      obtain ⟨place', hplace'⟩ := Condition.place_of_mem_problems hq
      simp [hplace, hplace', Prod.Lex.toLex_lt_toLex, hlt]
  · exact List.pairwise_singleton _ _

theorem mem_actionProblems :
    problem ∈ d.actionProblems ↔
      (problem = .noActions ∧ d.actions = []) ∨
      ∃ position a inner, d.actions[position]? = some a ∧ problem = .action position inner ∧
        a.Breaks inner := by
  unfold actionProblems
  rw [List.mem_append, mem_flatten_mapIdx]
  apply or_congr
  · cases d.actions <;> simp
  · simp only [List.mem_map, Action.mem_problems]
    constructor
    · rintro ⟨position, a, ha, inner, hbreaks, rfl⟩
      exact ⟨position, a, inner, ha, rfl, hbreaks⟩
    · rintro ⟨position, a, inner, ha, rfl, hbreaks⟩
      exact ⟨position, a, ha, inner, hbreaks, rfl⟩

theorem lt_part_of_mem_actionProblems (h : problem ∈ d.actionProblems) : 3 < problem.part := by
  rcases mem_actionProblems.mp h with ⟨rfl, -⟩ | ⟨position, a, inner, -, rfl, -⟩
  · decide
  · change 3 < 5
    decide

theorem inSequence_actionProblems (d : Definition) : Problem.InSequence d.actionProblems := by
  unfold actionProblems
  apply List.pairwise_append.mpr
  refine ⟨?_, ?_, ?_⟩
  · split <;> simp
  · apply pairwise_flatten_mapIdx
    · intro position a
      rw [List.pairwise_map]
      apply a.pairwise_problems.imp
      intro p q hlt
      simp [Problem.place, Prod.Lex.toLex_lt_toLex, hlt]
    · intro position later a b hlt p hp q hq
      obtain ⟨inner, -, rfl⟩ := List.mem_map.mp hp
      obtain ⟨inner', -, rfl⟩ := List.mem_map.mp hq
      simp [Problem.place, Prod.Lex.toLex_lt_toLex, hlt]
  · intro p hp q hq
    obtain ⟨position, a, -, hq⟩ := mem_flatten_mapIdx.mp hq
    obtain ⟨inner, -, rfl⟩ := List.mem_map.mp hq
    split at hp
    · obtain rfl := List.mem_singleton.mp hp
      simp [Problem.place, Prod.Lex.toLex_lt_toLex]
    · cases hp

/-! ## Definitions -/

theorem mem_problems : problem ∈ d.problems ↔ d.Breaks problem := by
  unfold problems
  rw [List.mem_append, List.mem_append, mem_headProblems, mem_triggerProblems, mem_actionProblems]
  constructor
  · intro h
    rcases h with ((⟨rfl, h⟩ | ⟨rfl, h⟩ | ⟨rfl, h⟩) | ⟨rfl, h⟩ |
        ⟨kind, conditions, position, c, htrigger, hposition, hc⟩) | ⟨rfl, h⟩ |
        ⟨position, a, inner, hposition, rfl, hbreaks⟩
    · exact .id h
    · exact .name h
    · exact .description h
    · exact .trigger h
    · rcases Condition.mem_problems.mp hc with ⟨rfl, hfield⟩ | ⟨v, rfl, hoperator⟩
      · exact .conditionField htrigger hposition hfield
      · exact .conditionOperator htrigger hposition hoperator
    · exact .noActions h
    · exact .action hposition hbreaks
  · intro h
    cases h with
    | id h => exact .inl (.inl (.inl ⟨rfl, h⟩))
    | name h => exact .inl (.inl (.inr (.inl ⟨rfl, h⟩)))
    | description h => exact .inl (.inl (.inr (.inr ⟨rfl, h⟩)))
    | trigger h => exact .inl (.inr (.inl ⟨rfl, h⟩))
    | conditionField htrigger hposition hfield =>
        refine .inl (.inr (.inr ⟨_, _, _, _, htrigger, hposition, ?_⟩))
        exact Condition.mem_problems.mpr (.inl ⟨rfl, hfield⟩)
    | conditionOperator htrigger hposition hoperator =>
        refine .inl (.inr (.inr ⟨_, _, _, _, htrigger, hposition, ?_⟩))
        exact Condition.mem_problems.mpr (.inr ⟨_, rfl, hoperator⟩)
    | noActions h => exact .inr (.inl ⟨rfl, h⟩)
    | action hposition hbreaks => exact .inr (.inr ⟨_, _, _, hposition, rfl, hbreaks⟩)

theorem inSequence_problems (d : Definition) : Problem.InSequence d.problems := by
  unfold problems
  apply List.pairwise_append.mpr
  -- within each of the three rows, then from the first to the second and from both to the third
  refine ⟨List.pairwise_append.mpr ⟨inSequence_headProblems d, inSequence_triggerProblems d, ?_⟩,
    inSequence_actionProblems d, ?_⟩
  · intro p hp q hq
    have hhead := part_lt_of_mem_headProblems hp
    have htrigger := part_of_mem_triggerProblems hq
    exact Problem.place_lt_of_part_lt (by omega)
  · intro p hp q hq
    have hactions := lt_part_of_mem_actionProblems hq
    apply Problem.place_lt_of_part_lt
    rcases List.mem_append.mp hp with hp | hp
    · have hhead := part_lt_of_mem_headProblems hp
      omega
    · have htrigger := part_of_mem_triggerProblems hp
      omega

end Definition

/-! ## Validation -/

/-- A kind that is known breaks no rule on its parameters if nothing is missing and an owner can
be chosen. -/
theorem ActionKind.breaks_none_iff {kind : ActionKind} {parameters : Entries} :
    (∀ problem, ¬kind.Breaks parameters problem) ↔
      (∀ name ∈ kind.requiredParameters, ¬parameters.Lacks name) ∧
        (kind = .assignOwner → ∃ method ∈ assignmentMethods,
          (parameters.field "metodo").text? = some method ∧
            (method = "especifico" → (parameters.field "usuario_id").isTruthy = true)) := by
  constructor
  · intro h
    have hgiven : ∀ name ∈ kind.requiredParameters, ¬parameters.Lacks name := by
      by_contra hlacks
      rw [← Action.missing_eq_nil_iff] at hlacks
      have hmem : .parametersMissing kind (kind.requiredParameters.filter (Action.lacks parameters))
          ∈ Action.parameterProblems kind parameters := by
        rw [Action.parameterProblems_of_missing hlacks]
        exact List.mem_singleton_self _
      exact h _ (Action.mem_parameterProblems.mp hmem)
    refine ⟨hgiven, fun hkind => ?_⟩
    by_contra hnone
    push Not at hnone
    by_cases hmethod : ∀ method ∈ assignmentMethods, (parameters.field "metodo").text? ≠ some method
    · exact h _ (.method hkind hgiven hmethod)
    · push Not at hmethod
      obtain ⟨method, hmem, hmethod⟩ := hmethod
      obtain ⟨rfl, huser⟩ := hnone method hmem hmethod
      exact h _ (.user hkind hgiven hmethod (Bool.not_eq_true _ ▸ huser))
  · intro h problem hbreaks
    obtain ⟨hgiven, howner⟩ := h
    cases hbreaks with
    | missing hne hsorted hnames =>
        obtain ⟨name, hname⟩ := List.exists_mem_of_ne_nil _ hne
        obtain ⟨hrequired, hlacks⟩ := (hnames name).mp hname
        exact hgiven name hrequired hlacks
    | method hkind _ hmethod =>
        obtain ⟨method, hmem, hgivenMethod, -⟩ := howner hkind
        exact hmethod method hmem hgivenMethod
    | user hkind _ hmethod huser =>
        obtain ⟨method, -, hgivenMethod, htruthy⟩ := howner hkind
        have hspecific := Option.some.inj (hgivenMethod.symm.trans hmethod)
        rw [htruthy hspecific] at huser
        cases huser

theorem Action.breaks_none_iff {a : Action} : (∀ problem, ¬a.Breaks problem) ↔ a.InOrder := by
  constructor
  · intro h
    have hkind : a.kind.isBlank = false := by
      by_contra hblank
      exact h _ (.kind (Bool.not_eq_false _ ▸ hblank))
    have hform : ∃ parameters, a.parameters = .object parameters := by
      by_contra hnone
      exact h _ (.parametersForm hkind (not_exists.mp hnone))
    obtain ⟨parameters, hparameters⟩ := hform
    refine ⟨hkind, ?_, parameters, hparameters, fun kind hknown => ?_⟩
    · by_cases hgiven : a.timeout = .null
      · exact .inl hgiven
      · right
        cases hnumber : a.timeout.properNumber? with
        | none => exact absurd (.timeoutForm hkind hgiven hnumber) (h _)
        | some seconds =>
            exact ⟨seconds, rfl, fun hspan => h _ (.timeoutSpan hkind hnumber hspan)⟩
    · rw [← ActionKind.breaks_none_iff]
      exact fun problem hbreaks => h _ (.parameters hkind hparameters hknown hbreaks)
  · intro h problem hbreaks
    obtain ⟨parameters, hparameters, hrules⟩ := h.parameters
    cases hbreaks with
    | kind hblank =>
        rw [h.kind] at hblank
        cases hblank
    | timeoutForm _ hgiven hform =>
        rcases h.timeout with hnull | ⟨seconds, hnumber, -⟩
        · exact hgiven hnull
        · rw [hform] at hnumber
          cases hnumber
    | timeoutSpan _ hform hspan =>
        rcases h.timeout with hnull | ⟨seconds, hnumber, hpositive⟩
        · rw [hnull] at hform
          cases hform
        · obtain rfl := Option.some.inj (hform.symm.trans hnumber)
          exact hpositive hspan
    | parametersForm _ hform => exact hform parameters hparameters
    | parameters _ hform hknown hbreaks =>
        obtain rfl := Value.object.inj (hform.symm.trans hparameters)
        exact ActionKind.breaks_none_iff.mpr (hrules _ hknown) _ hbreaks

namespace Definition

variable {d : Definition}

theorem breaks_none_iff : (∀ problem, ¬d.Breaks problem) ↔ d.InOrder := by
  constructor
  · intro h
    have htrigger : ∃ kind conditions, d.trigger = some ⟨.known kind, conditions⟩ := by
      by_contra hnone
      push Not at hnone
      exact h _ (.trigger hnone)
    obtain ⟨kind, conditions, htrigger⟩ := htrigger
    refine {
      id := by_contra fun hid => h _ (.id (Bool.not_eq_false _ ▸ hid))
      name := by_contra fun hname => h _ (.name (Bool.not_eq_false _ ▸ hname))
      description := Option.ne_none_iff_exists'.mp fun hnone => h _ (.description hnone)
      trigger := ⟨kind, conditions, htrigger, fun c hc => ?_⟩
      actions_ne := fun hnone => h _ (.noActions hnone)
      actions := fun a ha => ?_ }
    · obtain ⟨position, hposition⟩ := List.mem_iff_getElem?.mp hc
      constructor
      · by_contra hblank
        exact h _ (.conditionField htrigger hposition (Bool.not_eq_false _ ▸ hblank))
      · cases hoperator : c.operator with
        | known operator => exact ⟨operator, rfl⟩
        | other v => exact absurd (.conditionOperator htrigger hposition hoperator) (h _)
    · obtain ⟨position, hposition⟩ := List.mem_iff_getElem?.mp ha
      rw [← Action.breaks_none_iff]
      exact fun problem hbreaks => h _ (.action hposition hbreaks)
  · intro h problem hbreaks
    obtain ⟨kind, conditions, htrigger, hconditions⟩ := h.trigger
    cases hbreaks with
    | id hblank => exact absurd hblank (by simp [h.id])
    | name hblank => exact absurd hblank (by simp [h.name])
    | description hnone =>
        obtain ⟨text, htext⟩ := h.description
        rw [hnone] at htext
        cases htext
    | trigger hnone => exact hnone kind conditions htrigger
    | conditionField hgiven hposition hblank =>
        rw [htrigger] at hgiven
        cases hgiven
        have hc := hconditions _ (List.mem_of_getElem? hposition)
        exact absurd hblank (by simp [hc.field])
    | conditionOperator hgiven hposition hoperator =>
        rw [htrigger] at hgiven
        cases hgiven
        obtain ⟨operator, hknown⟩ := (hconditions _ (List.mem_of_getElem? hposition)).operator
        rw [hoperator] at hknown
        cases hknown
    | noActions hnone => exact h.actions_ne hnone
    | action hposition hinner =>
        exact Action.breaks_none_iff.mpr (h.actions _ (List.mem_of_getElem? hposition)) _ hinner

theorem sound_iff : d.Sound ↔ d.InOrder := by
  rw [← breaks_none_iff, Sound, List.isEmpty_iff, List.eq_nil_iff_forall_not_mem]
  simp only [mem_problems]

/-- Faults in several parts: of an action without a kind nothing else is told. -/
example :
    (problems ⟨.text " ", .text "Prazo", .null, none,
      [⟨.text "", .null, .text "5"⟩, ⟨.text "atribuir_usuario", .object [], .bool true⟩]⟩).map
        Problem.message
      = ["Workflow id is required", "Workflow description must be a string",
        "Trigger type is required", "Action 0: type is required",
        "Action 1: timeout_seconds must be a number",
        "Action 1 (atribuir_usuario): missing parameters metodo"] := by
  decide +kernel

end Definition

end CaseWorkflow
