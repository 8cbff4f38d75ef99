import CaseWorkflow.Proofs.Registry.Reaction

/-!
# The order that conditions see

The four ordering operators ask for one comparison of the field's value with the value of the
condition, and each reads its own answer off the result.  With the operands the other way round
the comparison is turned round too, and where it comes to nothing it does so for the same reason.
-/

namespace CaseWorkflow

/-! ## One comparison -/

/-- Why a condition is not decided, whatever its operands are. -/
inductive Obstacle where
  | kinds
  | zones
  | operator
  | key

def Undecided.obstacle : Undecided → Obstacle
  | .incomparable _ _ => .kinds
  | .zoneMismatch _ => .zones
  | .unknownOperator _ => .operator
  | .notAKey _ => .key

theorem Date.cmp_swap (a b : Date) : (a.cmp b).swap = b.cmp a := by
  simp only [Date.cmp, Ordering.swap_then, Nat.compare_swap]

theorem Temporal.cmp?_swap (a b : Temporal) : (a.cmp? b).map Ordering.swap = b.cmp? a := by
  cases a with
  | day a =>
      cases b with
      | day b => exact congrArg some (a.cmp_swap b)
      | moment b => exact congrArg some (a.cmp_swap b.date)
  | moment a =>
      cases b with
      | day b => exact congrArg some (a.date.cmp_swap b)
      | moment b => exact a.cmp?_swap b

namespace Value

variable {x y : Value} {a b : Number}

/-- How two values compare as dates. -/
def comparedAsDates (x y : Value) : Except Obstacle (Option Ordering) :=
  match Temporal.of? x, Temporal.of? y with
  | some a, some b =>
    match a.cmp? b with
    | some order => .ok (some order)
    | none => .error .zones
  | _, _ => .error .kinds

/-- How two values compare, as numbers or else as dates.  A number has no order with
not-a-number, which is no error. -/
def compared (x y : Value) : Except Obstacle (Option Ordering) :=
  match x.properNumber?, y.properNumber? with
  | some a, some b => .ok (a.cmp? b)
  | _, _ => x.comparedAsDates y

theorem comparedAsDates_swap (x y : Value) :
    (x.comparedAsDates y).map (Option.map Ordering.swap) = y.comparedAsDates x := by
  unfold comparedAsDates
  cases Temporal.of? x with
  | none => cases Temporal.of? y <;> rfl
  | some a =>
      cases Temporal.of? y with
      | none => rfl
      | some b =>
          simp only [← a.cmp?_swap b]
          cases a.cmp? b <;> rfl

theorem compared_swap (x y : Value) :
    (x.compared y).map (Option.map Ordering.swap) = y.compared x := by
  unfold compared
  cases x.properNumber? with
  | none => cases y.properNumber? <;> exact comparedAsDates_swap x y
  | some a =>
      cases y.properNumber? with
      | none => exact comparedAsDates_swap x y
      | some b => exact congrArg Except.ok (a.cmp?_swap b)

theorem properNumber?_eq_nan (h : x.properNumber? = some a) (hplace : a.place? = none) :
    x = .float .nan := by
  cases x with
  | int i =>
      obtain rfl := Option.some.inj h
      cases hplace
  | float d =>
      obtain rfl := Option.some.inj h
      cases d with
      | nan => rfl
      | infinity negative => cases hplace
      | finite negative mantissa exponent canonical => cases hplace
  | _ => cases h

/-- Only not-a-number has no order with other values that it is compared with. -/
theorem nan_of_compared (h : x.compared y = .ok none) : x = .float .nan ∨ y = .float .nan := by
  unfold compared at h
  split at h
  next a b hx hy =>
    have hnone : a.cmp? b = none := Except.ok.inj h
    unfold Number.cmp? at hnone
    cases ha : a.place? with
    | none => exact .inl (properNumber?_eq_nan hx ha)
    | some place =>
        cases hb : b.place? with
        | none => exact .inr (properNumber?_eq_nan hy hb)
        | some other =>
            rw [ha, hb] at hnone
            cases hnone
  next =>
    unfold comparedAsDates at h
    split at h
    next =>
      split at h
      next => cases Except.ok.inj h
      next => cases h
    next => cases h

end Value

/-! ## Four questions -/

/-- The operator that says the same of the operands the other way round. -/
def Operator.mirrored : Operator → Operator
  | .gt => .lt
  | .ge => .le
  | .lt => .gt
  | .le => .ge
  | operator => operator

theorem Operator.admits_swap (operator : Operator) (order : Ordering) :
    operator.mirrored.admits order.swap = operator.admits order := by
  cases operator <;> cases order <;> rfl

theorem Operator.isOrdering_mirrored (operator : Operator) :
    operator.mirrored.isOrdering = operator.isOrdering := by
  cases operator <;> rfl

namespace Condition

variable {c : Condition} {data : Entries} {operator : Operator} {actual x y : Value}

/-- What a condition comes to: whether it holds, or why that is not decided. -/
def outcome (c : Condition) (data : Entries) : Except Obstacle Bool :=
  (c.evaluate data).mapError Undecided.obstacle

/-- An ordering operator reads its answer off the comparison. -/
theorem obstacle_compareWith (c : Condition) (operator : Operator) (actual : Value) :
    (c.compareWith operator actual).mapError Undecided.obstacle
      = (actual.compared c.value).map (Option.any operator.admits) := by
  unfold compareWith Value.compared Value.comparedAsDates
  generalize actual.properNumber? = number, c.value.properNumber? = expected
  generalize Temporal.of? actual = date, Temporal.of? c.value = expectedDate
  have hdates : (match date, expectedDate with
      | some a, some b =>
        match a.cmp? b with
        | some order => .ok (operator.admits order)
        | none => .error (.zoneMismatch c)
      | _, _ => .error (.incomparable c actual) : Except Undecided Bool).mapError
        Undecided.obstacle
      = (match date, expectedDate with
      | some a, some b =>
        match a.cmp? b with
        | some order => .ok (some order)
        | none => .error .zones
      | _, _ => .error .kinds : Except Obstacle (Option Ordering)).map
          (Option.any operator.admits) := by
    cases date with
    | none => rfl
    | some a =>
        cases expectedDate with
        | none => rfl
        | some b =>
            dsimp only
            cases a.cmp? b <;> rfl
  cases number with
  | none => exact hdates
  | some a =>
      cases expected with
      | none => exact hdates
      | some b =>
          dsimp only
          cases a.cmp? b <;> rfl

/-- An ordering condition on a field that is there is left to the comparison. -/
theorem evaluate_ordering (hknown : c.operator = .known operator)
    (hoperator : operator.isOrdering = true) (hactual : c.actual? data = some actual) :
    c.evaluate data = c.compareWith operator actual := by
  have hkey : c.field.isKey = true := by
    obtain ⟨name, hname, -⟩ := Option.bind_eq_some_iff.mp hactual
    cases hfield : c.field with
    | list | object =>
        rw [hfield] at hname
        cases hname
    | _ => rfl
  unfold evaluate
  rw [hactual, if_neg (by rw [hkey]; decide)]
  dsimp only
  unfold decideOn
  rw [hknown]
  cases operator with
  | gt | ge | lt | le => rfl
  | eq | ne | contains | notContains => cases hoperator

theorem outcome_ordering (hknown : c.operator = .known operator)
    (hoperator : operator.isOrdering = true) (hactual : c.actual? data = some actual) :
    c.outcome data = (actual.compared c.value).map (Option.any operator.admits) := by
  rw [outcome, evaluate_ordering hknown hoperator hactual, obstacle_compareWith]

/-- The condition that compares a field with a value. -/
def asking (field : String) (operator : Operator) (value : Value) : Condition :=
  ⟨.text field, .known operator, value⟩

section Asking

variable {field : String}

theorem outcome_asking (hactual : data.lookup field = some x)
    (hoperator : operator.isOrdering = true) :
    (asking field operator y).outcome data = (x.compared y).map (Option.any operator.admits) :=
  outcome_ordering (c := asking field operator y) rfl hoperator hactual

/-- An ordering condition is decided where its two values compare. -/
theorem evaluate_asking_eq_ok_iff (hactual : data.lookup field = some x)
    (hoperator : operator.isOrdering = true) {holds : Bool} :
    (asking field operator y).evaluate data = .ok holds ↔
      ∃ order, x.compared y = .ok order ∧ order.any operator.admits = holds := by
  have houtcome := outcome_asking (y := y) hactual hoperator
  unfold outcome at houtcome
  constructor
  · intro hholds
    rw [hholds] at houtcome
    cases hcompared : x.compared y with
    | error obstacle =>
        rw [hcompared] at houtcome
        cases houtcome
    | ok order =>
        rw [hcompared] at houtcome
        exact ⟨order, rfl, (Except.ok.inj houtcome).symm⟩
  · rintro ⟨order, hcompared, rfl⟩
    rw [hcompared] at houtcome
    cases hevaluate : (asking field operator y).evaluate data with
    | error undecided =>
        rw [hevaluate] at houtcome
        cases houtcome
    | ok holds =>
        rw [hevaluate] at houtcome
        exact congrArg Except.ok (Except.ok.inj houtcome)

/-- Where its two values do not compare, an ordering condition says that it is the one that is
not decided. -/
theorem evaluate_asking_error {obstacle : Obstacle} (hactual : data.lookup field = some x)
    (hoperator : operator.isOrdering = true) (hcompared : x.compared y = .error obstacle) :
    ∃ undecided, (asking field operator y).evaluate data = .error undecided ∧
      undecided.condition? = some (asking field operator y) := by
  cases hevaluate : (asking field operator y).evaluate data with
  | error undecided =>
      have hcompare := evaluate_ordering (c := asking field operator y) rfl hoperator hactual
      exact ⟨undecided, rfl, compareWith_error (hcompare.symm.trans hevaluate)⟩
  | ok holds =>
      obtain ⟨order, hok, -⟩ := (evaluate_asking_eq_ok_iff hactual hoperator).1 hevaluate
      rw [hcompared] at hok
      cases hok

/-- Whatever two values are asked for, the four operators describe one order: they are decided
together or not at all, each is the contrary of another one, and the operands may change places
with their operator. -/
theorem orderings_agree (field : String) (x y : Value) :
    ((∀ operator, operator.isOrdering = true → ∃ undecided,
        (asking field operator y).evaluate [(field, x)] = .error undecided ∧
          undecided.condition? = some (asking field operator y)) ∨
      ∀ operator, operator.isOrdering = true → ∃ holds,
        (asking field operator y).evaluate [(field, x)] = .ok holds) ∧
    (∀ gt ge lt le, (asking field .gt y).evaluate [(field, x)] = .ok gt →
      (asking field .ge y).evaluate [(field, x)] = .ok ge →
      (asking field .lt y).evaluate [(field, x)] = .ok lt →
      (asking field .le y).evaluate [(field, x)] = .ok le →
        (gt && lt) = false ∧
          (x ≠ .float .nan → y ≠ .float .nan → gt = !le ∧ lt = !ge)) ∧
    ∀ operator, operator.isOrdering = true →
      (asking field operator.mirrored x).outcome [(field, y)]
        = (asking field operator y).outcome [(field, x)] := by
  have hx : List.lookup field [(field, x)] = some x := by simp
  have hy : List.lookup field [(field, y)] = some y := by simp
  refine ⟨?_, ?_, ?_⟩
  · cases hcompared : x.compared y with
    | error obstacle =>
        exact .inl fun operator hoperator => evaluate_asking_error hx hoperator hcompared
    | ok order =>
        exact .inr fun operator hoperator =>
          ⟨_, (evaluate_asking_eq_ok_iff hx hoperator).2 ⟨order, hcompared, rfl⟩⟩
  · intro gt ge lt le hgt hge hlt hle
    obtain ⟨order, hcompared, rfl⟩ := (evaluate_asking_eq_ok_iff hx rfl).1 hgt
    -- The four answers come from one comparison.
    have hanswer : ∀ {operator : Operator} {holds : Bool}, operator.isOrdering = true →
        (asking field operator y).evaluate [(field, x)] = .ok holds →
          holds = order.any operator.admits := by
      intro operator holds hoperator hholds
      obtain ⟨other, hother, rfl⟩ := (evaluate_asking_eq_ok_iff hx hoperator).1 hholds
      rw [hcompared] at hother
      rw [Except.ok.inj hother]
    rw [hanswer rfl hge, hanswer rfl hlt, hanswer rfl hle]
    cases order with
    | none =>
        refine ⟨rfl, fun hxnan hynan => ?_⟩
        rcases Value.nan_of_compared hcompared with hnan | hnan
        · exact absurd hnan hxnan
        · exact absurd hnan hynan
    | some order => cases order <;> exact ⟨rfl, fun _ _ => ⟨rfl, rfl⟩⟩
  · intro operator hoperator
    have hmirrored : operator.mirrored.isOrdering = true := by
      rw [operator.isOrdering_mirrored, hoperator]
    rw [outcome_asking hx hoperator, outcome_asking hy hmirrored, ← x.compared_swap y]
    cases x.compared y with
    | error obstacle => rfl
    | ok order =>
        cases order with
        | none => rfl
        | some order => exact congrArg Except.ok (operator.admits_swap order)

/-- A day is at least the noon of that day and no later, and the noon is at most the day. -/
theorem orderings_agree_noon :
    ∃ day noon : Value, day = .date ⟨2024, 5, 10, by decide⟩ ∧
      noon = .text "2024-05-10T12:00:00" ∧
      ((asking "prazo" .gt noon).evaluate [("prazo", day)] = .ok false ∧
        (asking "prazo" .ge noon).evaluate [("prazo", day)] = .ok true ∧
        (asking "prazo" .lt noon).evaluate [("prazo", day)] = .ok false ∧
        (asking "prazo" .le noon).evaluate [("prazo", day)] = .ok true) ∧
      (day ≠ .float .nan ∧ noon ≠ .float .nan ∧ false = !true) ∧
      (Operator.isOrdering .ge = true ∧
        (asking "prazo" .le day).outcome [("prazo", noon)]
          = (asking "prazo" .ge noon).outcome [("prazo", day)]) := by
  refine ⟨_, _, rfl, rfl, ⟨rfl, rfl, rfl, rfl⟩, ?_, ?_⟩
  · obtain ⟨-, hcontrary, -⟩ := orderings_agree "prazo" (.date ⟨2024, 5, 10, by decide⟩)
      (.text "2024-05-10T12:00:00")
    have hday : Value.date ⟨2024, 5, 10, by decide⟩ ≠ .float .nan := by simp
    have hnoon : Value.text "2024-05-10T12:00:00" ≠ .float .nan := by simp
    have hanswers := hcontrary false true false true rfl rfl rfl rfl
    exact ⟨hday, hnoon, (hanswers.2 hday hnoon).1⟩
  · obtain ⟨-, -, hmirrored⟩ := orderings_agree "prazo" (.date ⟨2024, 5, 10, by decide⟩)
      (.text "2024-05-10T12:00:00")
    exact ⟨rfl, hmirrored .ge rfl⟩

end Asking

end Condition

end CaseWorkflow
