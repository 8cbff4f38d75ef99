import CaseWorkflow.Proofs.Condition.Ordering
import CaseWorkflow.Proofs.Number.Order

/-!
# What a trigger means

The meaning of a condition is told by rules on its operator, the value of its field and its own
value, and that of a trigger by the first condition that does not hold.  Matching comes to
exactly what the rules say.
-/

namespace CaseWorkflow

/-! ## Operands with an order -/

/-- What an ordering operator says of two things of one order. -/
def Operator.Relates {α : Type} [LinearOrder α] : Operator → α → α → Prop
  | .gt, a, b => b < a
  | .ge, a, b => b ≤ a
  | .lt, a, b => a < b
  | .le, a, b => a ≤ b
  | _, _, _ => False

/-- An operator admits the order of two things if it holds of them. -/
theorem Operator.admits_iff {α : Type} [LinearOrder α] {a b : α} {order : Ordering}
    (hlt : order = .lt ↔ a < b) (heq : order = .eq ↔ a = b) (operator : Operator) :
    operator.admits order = true ↔ operator.Relates a b := by
  rcases lt_trichotomy a b with h | h | h
  · obtain rfl := hlt.mpr h
    cases operator <;> simp [admits, Relates, h, h.le, h.not_gt]
  · obtain rfl := heq.mpr h
    cases operator <;> simp [admits, Relates, h]
  · have hgt : order = .gt := by
      cases order with
      | lt => exact absurd (hlt.mp rfl) h.not_gt
      | eq => exact absurd (heq.mp rfl) h.ne'
      | gt => rfl
    subst hgt
    cases operator <;> simp [admits, Relates, h, h.le, h.not_gt]

/-- What an ordering operator says of two numbers.  Not-a-number has no place on the line, so
that no operator holds of it. -/
def Operator.RelatesNumbers (operator : Operator) (x y : Number) : Prop :=
  ∃ p q, x.place? = some p ∧ y.place? = some q ∧ operator.Relates p.rank q.rank

theorem Operator.admits_numbers_iff (operator : Operator) (x y : Number) :
    (x.cmp? y).any operator.admits = true ↔ operator.RelatesNumbers x y := by
  unfold Number.cmp? RelatesNumbers
  cases x.place? with
  | none => simp
  | some p =>
      cases y.place? with
      | none => simp
      | some q => simp [admits_iff (p.cmp_eq_lt_iff q) (p.cmp_eq_eq_iff q)]

/-- The year, the month and the day in the order in which they are compared. -/
def Date.rank (d : Date) : ℕ ×ₗ ℕ ×ₗ ℕ := toLex (d.year, toLex (d.month, d.day))

theorem Date.cmp_eq_lt_iff (a b : Date) : a.cmp b = .lt ↔ a.rank < b.rank := by
  simp only [cmp, rank, Ordering.then_eq_lt, Ordering.then_eq_eq, compare_lt_iff_lt,
    compare_eq_iff_eq, Prod.Lex.toLex_lt_toLex]
  omega

theorem Date.cmp_eq_eq_iff (a b : Date) : a.cmp b = .eq ↔ a.rank = b.rank := by
  simp only [cmp, rank, Ordering.then_eq_eq, compare_eq_iff_eq, EmbeddingLike.apply_eq_iff_eq,
    Prod.mk.injEq, and_assoc]

namespace Temporal

/-- The calendar day of a date. -/
def date : Temporal → Date
  | .day d => d
  | .moment m => m.date

/-- Two dates are comparable, unless they are moments of which one has a distance from universal
time and the other has none. -/
def Comparable : Temporal → Temporal → Prop
  | .moment a, .moment b => a.isAware = b.isAware
  | _, _ => True

end Temporal

/-- What an ordering operator says of two dates: moments stand on the line of time, and days
compare as days, also with the days of moments. -/
def Operator.RelatesDates (operator : Operator) : Temporal → Temporal → Prop
  | .moment a, .moment b => operator.Relates a.instant b.instant
  | a, b => operator.Relates a.date.rank b.date.rank

/-- Comparable dates have an order, which the operators tell. -/
theorem Temporal.Comparable.exists_order {a b : Temporal} (h : a.Comparable b) :
    ∃ order, a.cmp? b = some order ∧
      ∀ operator : Operator, operator.admits order = true ↔ operator.RelatesDates a b := by
  cases a with
  | day a =>
      cases b with
      | day b => exact ⟨_, rfl, Operator.admits_iff (a.cmp_eq_lt_iff b) (a.cmp_eq_eq_iff b)⟩
      | moment b =>
          exact ⟨_, rfl, Operator.admits_iff (a.cmp_eq_lt_iff b.date) (a.cmp_eq_eq_iff b.date)⟩
  | moment a =>
      cases b with
      | day b =>
          exact ⟨_, rfl, Operator.admits_iff (a.date.cmp_eq_lt_iff b) (a.date.cmp_eq_eq_iff b)⟩
      | moment b =>
          have hkind : (a.isAware == b.isAware) = true := beq_iff_eq.mpr h
          exact ⟨_, if_pos hkind, Operator.admits_iff compare_lt_iff_lt compare_eq_iff_eq⟩

theorem Temporal.cmp?_eq_none {a b : Temporal} (h : ¬a.Comparable b) : a.cmp? b = none := by
  cases a with
  | day a => exact absurd trivial h
  | moment a =>
      cases b with
      | day b => exact absurd trivial h
      | moment b =>
          have hkind : ¬(a.isAware == b.isAware) = true := fun heq => h (beq_iff_eq.mp heq)
          exact if_neg hkind

namespace Value

variable {x y : Value}

/-- Two values have an order if both are numbers, not counting truth values, or both are dates
that are comparable, where texts in ISO 8601 count as dates. -/
def Ordered (x y : Value) : Prop :=
  (x.properNumber?.isSome = true ∧ y.properNumber?.isSome = true) ∨
    ∃ a b, Temporal.of? x = some a ∧ Temporal.of? y = some b ∧ a.Comparable b

theorem compared_of_numbers {a b : Number} (hx : x.properNumber? = some a)
    (hy : y.properNumber? = some b) : x.compared y = .ok (a.cmp? b) := by
  rw [compared, hx, hy]

theorem properNumber?_eq_none {a : Temporal} (h : Temporal.of? x = some a) :
    x.properNumber? = none := by
  cases x with
  | int | float => cases h
  | _ => rfl

theorem compared_of_dates {a b : Temporal} {order : Ordering} (hx : Temporal.of? x = some a)
    (hy : Temporal.of? y = some b) (horder : a.cmp? b = some order) :
    x.compared y = .ok (some order) := by
  rw [compared, properNumber?_eq_none hx]
  simp only [comparedAsDates, hx, hy, horder]

theorem exists_compared_error (h : ¬x.Ordered y) :
    ∃ obstacle, x.compared y = .error obstacle := by
  obtain ⟨hnumbers, hdates⟩ := not_or.mp h
  have hcompared : x.compared y = x.comparedAsDates y := by
    unfold compared
    split
    next a b ha hb => simp [ha, hb] at hnumbers
    next => rfl
  rw [hcompared]
  unfold comparedAsDates
  split
  next a b ha hb =>
    have hnot : ¬a.Comparable b := fun hcomparable => hdates ⟨a, b, ha, hb, hcomparable⟩
    rw [Temporal.cmp?_eq_none hnot]
    exact ⟨_, rfl⟩
  next => exact ⟨_, rfl⟩

end Value

/-! ## Conditions -/

/-- What a condition says of the value of its field, which may be absent: that it holds, that it
does not, or nothing, where the operands have no order. -/
inductive Condition.Says (c : Condition) : Option Value → Option Bool → Prop
  | absentUnequal (h : c.operator = .known .ne) : c.Says none (some true)
  | absent {operator : Operator} (h : c.operator = .known operator) (hne : operator ≠ .ne) :
      c.Says none (some false)
  | equal (h : c.operator = .known .eq) (actual : Value) :
      c.Says (some actual) (some (actual.same c.value))
  | unequal (h : c.operator = .known .ne) (actual : Value) :
      c.Says (some actual) (some !actual.same c.value)
  | contains (h : c.operator = .known .contains) (actual : Value) :
      c.Says (some actual) (some (actual.mentions c.value))
  | lacks (h : c.operator = .known .notContains) (actual : Value) :
      c.Says (some actual) (some !actual.mentions c.value)
  | numbers {operator : Operator} {actual : Value} {x y : Number} {holds : Bool}
      (h : c.operator = .known operator) (hoperator : operator.isOrdering = true)
      (hx : actual.properNumber? = some x) (hy : c.value.properNumber? = some y)
      (hholds : holds = true ↔ operator.RelatesNumbers x y) : c.Says (some actual) (some holds)
  | dates {operator : Operator} {actual : Value} {a b : Temporal} {holds : Bool}
      (h : c.operator = .known operator) (hoperator : operator.isOrdering = true)
      (ha : Temporal.of? actual = some a) (hb : Temporal.of? c.value = some b)
      (hcomparable : a.Comparable b) (hholds : holds = true ↔ operator.RelatesDates a b) :
      c.Says (some actual) (some holds)
  | unordered {operator : Operator} {actual : Value} (h : c.operator = .known operator)
      (hoperator : operator.isOrdering = true) (hunordered : ¬actual.Ordered c.value) :
      c.Says (some actual) none

namespace Condition

variable {c : Condition} {data : Entries} {actual : Value} {operator : Operator}
  {verdict : Option Bool}

theorem evaluate_of_absent (hkey : c.field.isKey = true) (h : c.actual? data = none) :
    c.evaluate data = .ok (c.operator.known? == some .ne) := by
  simp only [evaluate, hkey, h, Bool.not_true, Bool.false_eq_true, if_false]

theorem evaluate_of_present (hkey : c.field.isKey = true) (h : c.actual? data = some actual) :
    c.evaluate data = c.decideOn actual := by
  simp only [evaluate, hkey, h, Bool.not_true, Bool.false_eq_true, if_false]

theorem toOption_evaluate_ordering (h : c.operator = .known operator)
    (hoperator : operator.isOrdering = true) (hactual : c.actual? data = some actual) :
    (c.evaluate data).toOption
      = ((actual.compared c.value).map (Option.any operator.admits)).toOption := by
  rw [← outcome_ordering h hoperator hactual, outcome]
  cases c.evaluate data <;> rfl

/-- Evaluating a condition comes to what the condition says. -/
theorem Says.toOption_evaluate (hkey : c.field.isKey = true)
    (h : c.Says (c.actual? data) verdict) : (c.evaluate data).toOption = verdict := by
  generalize hvalue : c.actual? data = value at h
  cases h with
  | absentUnequal h =>
      rw [evaluate_of_absent hkey hvalue, h]
      rfl
  | absent h hne =>
      rw [evaluate_of_absent hkey hvalue, h]
      exact congrArg some (beq_eq_false_iff_ne.mpr fun heq => hne (Option.some.inj heq))
  | equal h | unequal h | contains h | lacks h =>
      rw [evaluate_of_present hkey hvalue, decideOn, h]
      rfl
  | numbers h hoperator hx hy hholds =>
      rw [toOption_evaluate_ordering h hoperator hvalue, Value.compared_of_numbers hx hy]
      refine congrArg some (Bool.eq_iff_iff.mpr ?_)
      rw [hholds]
      exact Operator.admits_numbers_iff _ _ _
  | dates h hoperator ha hb hcomparable hholds =>
      obtain ⟨order, horder, hadmits⟩ := hcomparable.exists_order
      rw [toOption_evaluate_ordering h hoperator hvalue, Value.compared_of_dates ha hb horder]
      refine congrArg some (Bool.eq_iff_iff.mpr ?_)
      rw [hholds]
      exact hadmits _
  | unordered h hoperator hunordered =>
      obtain ⟨obstacle, hcompared⟩ := Value.exists_compared_error hunordered
      rw [toOption_evaluate_ordering h hoperator hvalue, hcompared]
      rfl

theorem exists_says_ordering (h : c.operator = .known operator)
    (hoperator : operator.isOrdering = true) (actual : Value) :
    ∃ verdict, c.Says (some actual) verdict := by
  classical
  by_cases hordered : actual.Ordered c.value
  · rcases hordered with ⟨hx, hy⟩ | ⟨a, b, ha, hb, hcomparable⟩
    · obtain ⟨x, hx⟩ := Option.isSome_iff_exists.mp hx
      obtain ⟨y, hy⟩ := Option.isSome_iff_exists.mp hy
      exact ⟨_, .numbers h hoperator hx hy decide_eq_true_iff⟩
    · exact ⟨_, .dates h hoperator ha hb hcomparable decide_eq_true_iff⟩
  · exact ⟨none, .unordered h hoperator hordered⟩

theorem exists_says (h : c.operator = .known operator) (value : Option Value) :
    ∃ verdict, c.Says value verdict := by
  cases value with
  | none =>
      by_cases hne : operator = .ne
      · exact ⟨_, .absentUnequal (hne ▸ h)⟩
      · exact ⟨_, .absent h hne⟩
  | some actual =>
      cases operator with
      | eq => exact ⟨_, .equal h actual⟩
      | ne => exact ⟨_, .unequal h actual⟩
      | contains => exact ⟨_, .contains h actual⟩
      | notContains => exact ⟨_, .lacks h actual⟩
      | gt | ge | lt | le => exact exists_says_ordering h rfl actual

/-- A condition says one thing, which is what evaluating it comes to. -/
theorem says_iff (hkey : c.field.isKey = true) (h : c.operator = .known operator) :
    c.Says (c.actual? data) verdict ↔ (c.evaluate data).toOption = verdict := by
  constructor
  · exact Says.toOption_evaluate hkey
  · rintro rfl
    obtain ⟨verdict, hrule⟩ := exists_says h (c.actual? data)
    rw [hrule.toOption_evaluate hkey]
    exact hrule

/-! ## Rows of conditions -/

section Rows

variable {before rest : List Condition} {undecided : Undecided}

/-- Conditions that hold give way to those after them. -/
theorem evaluateAll_append (h : ∀ c ∈ before, c.evaluate data = .ok true) (rest : List Condition) :
    evaluateAll (before ++ rest) data = evaluateAll rest data := by
  induction before with
  | nil => rfl
  | cons c before ih =>
      rw [List.cons_append, evaluateAll, h c List.mem_cons_self]
      exact ih fun c' hc' => h c' (List.mem_cons_of_mem c hc')

theorem evaluateAll_of_fails (h : c.evaluate data = .ok false) (rest : List Condition) :
    evaluateAll (c :: rest) data = .ok false := by
  rw [evaluateAll, h]
  rfl

theorem evaluateAll_of_error (h : c.evaluate data = .error undecided) (rest : List Condition) :
    evaluateAll (c :: rest) data = .error undecided := by
  rw [evaluateAll, h]
  rfl

/-- All conditions hold, or there is a first one that does not. -/
theorem all_hold_or_first (conditions : List Condition) (data : Entries) :
    (∀ c ∈ conditions, c.evaluate data = .ok true) ∨
      ∃ before c rest, conditions = before ++ c :: rest ∧
        (∀ c' ∈ before, c'.evaluate data = .ok true) ∧ c.evaluate data ≠ .ok true := by
  induction conditions with
  | nil => exact .inl (List.forall_mem_nil _)
  | cons c rest ih =>
      by_cases hc : c.evaluate data = .ok true
      · rcases ih with hall | ⟨before, c', after, rfl, hbefore, hc'⟩
        · exact .inl (List.forall_mem_cons.mpr ⟨hc, hall⟩)
        · exact .inr ⟨c :: before, c', after, rfl, List.forall_mem_cons.mpr ⟨hc, hbefore⟩, hc'⟩
      · exact .inr ⟨[], c, rest, rfl, List.forall_mem_nil _, hc⟩

end Rows

end Condition

/-! ## Triggers -/

/-- The value of a condition's field: that of the entity, or else that of the context. -/
def Event.value? (event : Event) (c : Condition) : Option Value :=
  c.field.text?.bind fun field => (event.entity.lookup field).or (event.context.lookup field)

theorem Event.actual?_data {event : Event} (h : event.entity.keys.Nodup) (c : Condition) :
    c.actual? event.data = event.value? c := by
  unfold Condition.actual? value? data
  cases c.field.text? with
  | none => rfl
  | some field => exact Table.lookup_merge h event.context field

namespace Workflow

variable {w : Workflow} {event : Event} {c : Condition}

/-- What the trigger of a workflow says of an event: whether it matches, or else the condition
that cannot be evaluated.  The first condition that does not hold decides. -/
inductive Answers (w : Workflow) (event : Event) : Except Condition Bool → Prop
  | otherKind (h : w.kind ≠ event.kind) : w.Answers event (.ok false)
  | holds (h : w.kind = event.kind)
      (hall : ∀ c ∈ w.conditions, c.Says (event.value? c) (some true)) : w.Answers event (.ok true)
  | fails {before rest : List Condition} {c : Condition} (h : w.kind = event.kind)
      (hconditions : w.conditions = before ++ c :: rest)
      (hbefore : ∀ c' ∈ before, c'.Says (event.value? c') (some true))
      (hc : c.Says (event.value? c) (some false)) : w.Answers event (.ok false)
  | stuck {before rest : List Condition} {c : Condition} (h : w.kind = event.kind)
      (hconditions : w.conditions = before ++ c :: rest)
      (hbefore : ∀ c' ∈ before, c'.Says (event.value? c') (some true))
      (hc : c.Says (event.value? c) none) : w.Answers event (.error c)

theorem says_iff (hentity : event.entity.keys.Nodup) (hc : c ∈ w.conditions)
    {verdict : Option Bool} :
    c.Says (event.value? c) verdict ↔ (c.evaluate event.data).toOption = verdict := by
  obtain ⟨hkey, operator, hoperator⟩ := w.condition_known hc
  rw [← Event.actual?_data hentity]
  exact Condition.says_iff hkey hoperator

theorem evaluate_eq_ok_iff (hentity : event.entity.keys.Nodup) (hc : c ∈ w.conditions)
    {holds : Bool} :
    c.evaluate event.data = .ok holds ↔ c.Says (event.value? c) (some holds) := by
  rw [says_iff hentity hc, Attempt.toOption_eq_some_iff]

/-- A condition of a trigger that says nothing is named when it is evaluated. -/
theorem exists_undecided (hentity : event.entity.keys.Nodup) (hc : c ∈ w.conditions)
    (h : c.Says (event.value? c) none) :
    ∃ undecided, c.evaluate event.data = .error undecided ∧ undecided.condition? = some c := by
  obtain ⟨hkey, hoperator⟩ := w.condition_known hc
  rw [says_iff hentity hc] at h
  cases heval : c.evaluate event.data with
  | ok holds =>
      rw [heval] at h
      cases h
  | error undecided => exact ⟨undecided, rfl, Condition.evaluate_error hkey hoperator heval⟩

/-- Matching comes to what the trigger says. -/
theorem Answers.mapError_fires (hentity : event.entity.keys.Nodup)
    {answer : Except Condition Bool} (h : w.Answers event answer) :
    (fires w.kind w.conditions event).mapError Undecided.condition? = answer.mapError some := by
  cases h with
  | otherKind h =>
      rw [fires, if_neg h]
      rfl
  | holds h hall =>
      have hrow := Condition.evaluateAll_append
        (fun c hc => (evaluate_eq_ok_iff hentity hc).mpr (hall c hc)) []
      rw [List.append_nil] at hrow
      rw [fires, if_pos h, hrow]
      rfl
  | @fails before rest c h hconditions hbefore hc =>
      have hmem : ∀ c' ∈ before ++ c :: rest, c' ∈ w.conditions := fun c' hc' => hconditions ▸ hc'
      rw [fires, if_pos h, hconditions, Condition.evaluateAll_append fun c' hc' =>
          (evaluate_eq_ok_iff hentity (hmem c' (List.mem_append_left _ hc'))).mpr (hbefore c' hc'),
        Condition.evaluateAll_of_fails ((evaluate_eq_ok_iff hentity (hmem c (by simp))).mpr hc)]
      rfl
  | @stuck before rest c h hconditions hbefore hc =>
      have hmem : ∀ c' ∈ before ++ c :: rest, c' ∈ w.conditions := fun c' hc' => hconditions ▸ hc'
      obtain ⟨undecided, herror, hnamed⟩ := exists_undecided hentity (hmem c (by simp)) hc
      rw [fires, if_pos h, hconditions, Condition.evaluateAll_append fun c' hc' =>
          (evaluate_eq_ok_iff hentity (hmem c' (List.mem_append_left _ hc'))).mpr (hbefore c' hc'),
        Condition.evaluateAll_of_error herror]
      exact congrArg Except.error hnamed

theorem exists_answers (hentity : event.entity.keys.Nodup) (w : Workflow) :
    ∃ answer, w.Answers event answer := by
  by_cases hkind : w.kind = event.kind
  · rcases Condition.all_hold_or_first w.conditions event.data with
      hall | ⟨before, c, rest, hconditions, hbefore, hc⟩
    · exact ⟨_, .holds hkind fun c hc => (evaluate_eq_ok_iff hentity hc).mp (hall c hc)⟩
    · have hmem : ∀ c' ∈ before ++ c :: rest, c' ∈ w.conditions :=
        fun c' hc' => hconditions ▸ hc'
      have hrule : ∀ c' ∈ before, c'.Says (event.value? c') (some true) := fun c' hc' =>
        (evaluate_eq_ok_iff hentity (hmem c' (List.mem_append_left _ hc'))).mp (hbefore c' hc')
      have hlast : c ∈ w.conditions := hmem c (by simp)
      cases heval : c.evaluate event.data with
      | ok holds =>
          cases holds with
          | true => exact absurd heval hc
          | false =>
              exact ⟨_, .fails hkind hconditions hrule
                ((evaluate_eq_ok_iff hentity hlast).mp heval)⟩
      | error undecided =>
          refine ⟨_, .stuck hkind hconditions hrule ((says_iff hentity hlast).mpr ?_)⟩
          rw [heval]
          rfl
  · exact ⟨_, .otherKind hkind⟩

/-- A deadline is near when seven days or fewer are left. -/
def nearDeadline : Condition := .asking "dias_restantes" .le (.int 7)

/-- A workflow that warns of near deadlines outside of one court. -/
def deadlineWarning : Workflow where
  definition :=
    { id := .text "aviso"
      name := .text "Aviso de prazo"
      description := .text ""
      trigger := some ⟨.known .deadlineApproaching,
        [.asking "tribunal" .ne (.text "TRF1"), nearDeadline, .asking "fase" .eq (.text "recurso")]⟩
      actions := [⟨.text "adicionar_tag", .object [("tag", .text "prazo")], .null⟩] }
  sound := by decide

/-- A process without a court, whose days are null though the context counts three. -/
def undatedEvent : Event where
  id := "e"
  kind := .deadlineApproaching
  entity := [("dias_restantes", .null)]
  context := [("dias_restantes", .int 3)]
  occurredAt := Moment.earliest

end Workflow

end CaseWorkflow
