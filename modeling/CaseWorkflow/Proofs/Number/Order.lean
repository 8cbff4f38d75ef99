import CaseWorkflow.Number.Order
import Mathlib.Tactic

/-!
# The line of numbers

Numbers are compared by their places on the line of the rationals, which is extended at
both ends.
-/

namespace CaseWorkflow

namespace BinaryFraction

/-- The fraction as a rational number. -/
def value (x : BinaryFraction) : ℚ := x.significand * 2 ^ x.exponent

theorem withExponent_mul (x : BinaryFraction) {e : ℤ} (h : e ≤ x.exponent) :
    (x.withExponent e : ℚ) * 2 ^ e = x.value := by
  have hpower : (2 : ℚ) ^ (x.exponent - e).toNat * 2 ^ e = 2 ^ x.exponent := by
    rw [← zpow_natCast, ← zpow_add₀ (by norm_num)]
    congr 1
    omega
  rw [withExponent, value, ← hpower]
  push_cast [Nat.pow_eq]
  ring

theorem cmp_eq (x y : BinaryFraction) : x.cmp y = compare x.value y.value := by
  have hunit : (0 : ℚ) < 2 ^ min x.exponent y.exponent := by positivity
  have hx := x.withExponent_mul (min_le_left x.exponent y.exponent)
  have hy := y.withExponent_mul (min_le_right x.exponent y.exponent)
  rw [cmp, ← hx, ← hy]
  generalize x.withExponent _ = a
  generalize y.withExponent _ = b
  rcases lt_trichotomy a b with hlt | rfl | hgt
  · rw [compare_lt_iff_lt.mpr hlt, eq_comm, compare_lt_iff_lt, mul_lt_mul_iff_left₀ hunit]
    exact_mod_cast hlt
  · rw [compare_eq_iff_eq.mpr rfl, compare_eq_iff_eq.mpr rfl]
  · rw [compare_gt_iff_gt.mpr hgt, eq_comm, compare_gt_iff_gt, mul_lt_mul_iff_left₀ hunit]
    exact_mod_cast hgt

end BinaryFraction

/-- The line of the rationals with both of its ends. -/
abbrev Line : Type := WithBot (WithTop ℚ)

def Place.rank : Place → Line
  | .below => ⊥
  | .on x => ((x.value : WithTop ℚ) : Line)
  | .above => ⊤

theorem Place.cmp_eq_lt_iff (p q : Place) : p.cmp q = .lt ↔ p.rank < q.rank := by
  cases p with
  | below => cases q <;> simp [cmp, rank]
  | above => cases q <;> simp [cmp, rank]
  | on x =>
      cases q with
      | below => simp [cmp, rank]
      | on y => simp [cmp, rank, BinaryFraction.cmp_eq, compare_lt_iff_lt]
      | above =>
          have hlt : ((x.value : WithTop ℚ) : Line) < ⊤ :=
            WithBot.coe_lt_coe.mpr (WithTop.coe_lt_top x.value)
          simp [cmp, rank, hlt]

theorem Place.cmp_eq_eq_iff (p q : Place) : p.cmp q = .eq ↔ p.rank = q.rank := by
  cases p <;> cases q <;> simp [cmp, rank, BinaryFraction.cmp_eq]

namespace Number

variable {x y : Number} {p q : Place}

theorem lt_iff (hx : x.place? = some p) (hy : y.place? = some q) :
    lt x y = true ↔ p.rank < q.rank := by
  rw [lt, cmp?, hx, hy, ← Place.cmp_eq_lt_iff]
  simp

theorem le_iff (hx : x.place? = some p) (hy : y.place? = some q) :
    le x y = true ↔ p.rank ≤ q.rank := by
  rw [le, Bool.or_eq_true, lt_iff hx hy, eq, cmp?, hx, hy, le_iff_lt_or_eq,
    ← Place.cmp_eq_eq_iff]
  simp

/-- A number that is one is positive or at most zero. -/
theorem isPositive_eq_not_le (hx : x.place? = some p) : x.isPositive = !x.le (.int 0) := by
  have hzero : (Number.int 0).place? = some (.on ⟨0, 0⟩) := rfl
  rw [Bool.eq_iff_iff, Bool.not_eq_true', ← Bool.not_eq_true, isPositive, lt_iff hzero hx,
    le_iff hx hzero, not_le]

theorem cmp?_int (i j : ℤ) : cmp? (.int i) (.int j) = some (compare i j) := by
  simp [cmp?, place?, Place.cmp, BinaryFraction.cmp, BinaryFraction.withExponent]

theorem le_int (i j : ℤ) : le (.int i) (.int j) = decide (i ≤ j) := by
  rw [Bool.eq_iff_iff, decide_eq_true_iff, le_iff_lt_or_eq, le, lt, eq, cmp?_int]
  simp only [Bool.or_eq_true, beq_iff_eq, Option.some.injEq, compare_lt_iff_lt, compare_eq_iff_eq]

theorem isPositive_int (i : ℤ) : (Number.int i).isPositive = decide (0 < i) := by
  rw [isPositive, lt, cmp?_int, Bool.eq_iff_iff]
  simp [Int.compare_eq_lt]

end Number

namespace Double

variable {x y z : Double}

/-- Where a number stands on the line. -/
def rank (d : Double) : Line := ((Number.float d).place?.map Place.rank).getD ⊥

theorem exists_place (h : x ≠ .nan) : ∃ p, (Number.float x).place? = some p ∧ p.rank = x.rank := by
  cases x with
  | nan => exact absurd rfl h
  | infinity negative => exact ⟨_, rfl, rfl⟩
  | finite negative mantissa exponent canonical => exact ⟨_, rfl, rfl⟩

theorem lt_iff (hx : x ≠ .nan) (hy : y ≠ .nan) : x.lt y = true ↔ x.rank < y.rank := by
  obtain ⟨p, hp, hxrank⟩ := exists_place hx
  obtain ⟨q, hq, hyrank⟩ := exists_place hy
  rw [← hxrank, ← hyrank]
  exact Number.lt_iff hp hq

theorem le_iff (hx : x ≠ .nan) (hy : y ≠ .nan) : x.le y = true ↔ x.rank ≤ y.rank := by
  obtain ⟨p, hp, hxrank⟩ := exists_place hx
  obtain ⟨q, hq, hyrank⟩ := exists_place hy
  rw [← hxrank, ← hyrank]
  exact Number.le_iff hp hq

theorem ne_nan_of_le (h : x.le y = true) : x ≠ .nan ∧ y ≠ .nan := by
  constructor
  · rintro rfl
    cases h
  · rintro rfl
    cases x <;> cases h

theorem le_of_le_of_le (hxy : x.le y = true) (hyz : y.le z = true) : x.le z = true := by
  obtain ⟨hx, hy⟩ := ne_nan_of_le hxy
  obtain ⟨-, hz⟩ := ne_nan_of_le hyz
  rw [le_iff hx hz]
  exact ((le_iff hx hy).mp hxy).trans ((le_iff hy hz).mp hyz)

end Double

end CaseWorkflow
