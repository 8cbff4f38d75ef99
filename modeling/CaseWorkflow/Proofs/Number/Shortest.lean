import CaseWorkflow.Number.Decimal
import CaseWorkflow.Proofs.Number.Rounding

/-!
# The fewest digits of a double

The digits that are chosen for a double spell a number that the double attracts.  A hit on
a coarser grid is checked when it is found; the finest grid, of seventeen digits, needs no
check, since its step is less than what the double attracts on either side.
-/

namespace CaseWorkflow.Decimal

/-! ## The point of a fraction -/

theorem reaches_iff {num den : ℕ} (hden : 0 < den) (power : ℤ) :
    reaches num den power = true ↔ (10 : ℚ) ^ power ≤ num / den := by
  have hdenq : (0 : ℚ) < den := by exact_mod_cast hden
  have hpow : (0 : ℚ) < (Nat.pow 10 (-power).toNat : ℕ) := by
    exact_mod_cast natPow_pos 10 (by norm_num) _
  have hten := natPow_div_natPow 10 (by norm_num) power
  push_cast at hten
  rw [← hten, div_le_div_iff₀ hpow hdenq, reaches, decide_eq_true_iff]
  exact_mod_cast Iff.rfl

/-- Climbing never leaves the powers that the fraction reaches. -/
theorem reaches_climb {num den : ℕ} (steps : ℕ) {power : ℤ}
    (h : reaches num den (power - 1) = true) :
    reaches num den (climb num den steps power - 1) = true := by
  induction steps generalizing power with
  | zero => exact h
  | succ steps ih =>
      rw [climb]
      split
      next hreaches =>
        apply ih
        rw [add_sub_cancel_right]
        exact hreaches
      next => exact h

theorem zpow_mul_le_zpow_mul {a b x y : ℕ} (ha : 0 < a) (h : a ^ x ≤ b ^ y) (n : ℕ) :
    (a : ℚ) ^ ((x : ℤ) * n) ≤ (b : ℚ) ^ ((y : ℤ) * n) := by
  have haq : (0 : ℚ) < a := by exact_mod_cast ha
  rw [zpow_mul, zpow_mul, zpow_natCast _ n, zpow_natCast _ n]
  exact pow_le_pow_left₀ (by positivity) (zpow_le_zpow_of_pow_le h) n

/-- The quotient 1233 / 4096 is just below the logarithm of two. -/
theorem ten_pow_le_two_pow : 10 ^ 1233 ≤ 2 ^ 4096 := by decide +kernel

theorem two_pow_le_ten_pow : 2 ^ 4096 ≤ 10 ^ 1234 := by decide +kernel

/-- The guess for the power of ten is never more than one too high. -/
theorem ten_zpow_guess_le {k : ℤ} (hlow : -4096 ≤ k) :
    (10 : ℚ) ^ (k * 1233 / 4096 - 1) ≤ 2 ^ k := by
  have hguess : 4096 * (k * 1233 / 4096) ≤ 1233 * k := by omega
  rw [← pow_le_pow_iff_left₀ (by positivity) (by positivity) (by norm_num : 4096 ≠ 0),
    ← zpow_natCast, ← zpow_natCast, ← zpow_mul, ← zpow_mul]
  rcases le_total 0 k with hk | hk
  · obtain ⟨n, rfl⟩ := Int.eq_ofNat_of_zero_le hk
    have hstep := zpow_mul_le_zpow_mul (by norm_num) ten_pow_le_two_pow n
    refine (zpow_le_zpow_right₀ (by norm_num) ?_).trans (hstep.trans_eq ?_)
    · push_cast
      omega
    · rw [mul_comm]
      rfl
  · obtain ⟨n, hn⟩ := Int.eq_ofNat_of_zero_le (neg_nonneg.mpr hk)
    obtain rfl : k = -(n : ℤ) := by omega
    have hstep := zpow_mul_le_zpow_mul (by norm_num) two_pow_le_ten_pow n
    have hinv := inv_anti₀ (by positivity) hstep
    rw [← zpow_neg, ← zpow_neg] at hinv
    refine (zpow_le_zpow_right₀ (by norm_num) ?_).trans (hinv.trans_eq ?_)
    · push_cast
      omega
    · rw [neg_mul, mul_comm]
      rfl

/-- The fraction is not below the power of ten before its point. -/
theorem ten_zpow_pointOf_le {num den : ℕ} (hnum : 0 < num) (hden : 0 < den)
    (hlow : (2 : ℚ) ^ (-4000 : ℤ) ≤ num / den) :
    (10 : ℚ) ^ (pointOf num den - 1) ≤ num / den := by
  rw [← reaches_iff hden]
  apply reaches_climb
  rw [reaches_iff hden]
  have hlog := hlow.trans_lt (lt_two_zpow_log2_sub hden)
  rw [zpow_lt_zpow_iff_right₀ (by norm_num)] at hlog
  exact (ten_zpow_guess_le (by omega)).trans (two_zpow_log2_sub_le hnum hden)

theorem inUnits_snd_pos (num den : ℕ) (hden : 0 < den) (e : ℤ) : 0 < (inUnits num den e).2 :=
  Nat.mul_pos hden (natPow_pos 10 (by norm_num) _)

theorem inUnits_ratio (num den : ℕ) (e : ℤ) :
    ((inUnits num den e).1 : ℚ) / (inUnits num den e).2 = num / den / 10 ^ e := by
  have hpow := natPow_div_natPow 10 (by norm_num) (-e)
  rw [neg_neg] at hpow
  simp only [inUnits, Nat.cast_mul]
  rw [mul_div_mul_comm, hpow, zpow_neg]
  push_cast
  rw [div_eq_mul_inv _ ((10 : ℚ) ^ e)]

/-! ## The interval of a double -/

section Interval

variable {m : ℕ} {e : ℤ}

theorem intervalOf_den_pos : 0 < (intervalOf m e).den := natPow_pos 2 (by norm_num) _

theorem intervalOf_unit :
    ((Nat.pow 2 (e - 2).toNat : ℕ) : ℚ) / (intervalOf m e).den = 2 ^ (e - 2) := by
  have h := natPow_div_natPow 2 (by norm_num) (e - 2)
  rw [neg_sub] at h
  exact_mod_cast h

theorem intervalOf_middle_div :
    ((intervalOf m e).middle : ℚ) / (intervalOf m e).den = m * 2 ^ e := by
  have h : ((intervalOf m e).middle : ℚ) = 4 * m * (Nat.pow 2 (e - 2).toNat : ℕ) := by
    simp [intervalOf]
  rw [h, mul_div_assoc, intervalOf_unit, zpow_sub₀ (by norm_num)]
  ring

theorem intervalOf_low_div (hm : 0 < m) :
    ((intervalOf m e).low : ℚ) / (intervalOf m e).den
      = (4 * m - Double.quartersBelow m e) * 2 ^ (e - 2) := by
  have hle : Double.quartersBelow m e ≤ 4 * m :=
    (Double.quartersBelow_le m e).trans (by omega)
  have h : ((intervalOf m e).low : ℚ)
      = (4 * m - Double.quartersBelow m e) * (Nat.pow 2 (e - 2).toNat : ℕ) := by
    have hnat : (intervalOf m e).low
        = (4 * m - Double.quartersBelow m e) * Nat.pow 2 (e - 2).toNat := rfl
    rw [hnat, Nat.cast_mul, Nat.cast_sub hle]
    push_cast
    rfl
  rw [h, mul_div_assoc, intervalOf_unit]

theorem intervalOf_high_div :
    ((intervalOf m e).high : ℚ) / (intervalOf m e).den = (4 * m + 2) * 2 ^ (e - 2) := by
  have h : ((intervalOf m e).high : ℚ) = (4 * m + 2) * (Nat.pow 2 (e - 2).toNat : ℕ) := by
    simp [intervalOf]
  rw [h, mul_div_assoc, intervalOf_unit]

/-- What lies in the interval of a double is attracted by it. -/
theorem attracts_of_holds (hm : 0 < m) {count : ℕ} {exponent : ℤ}
    (h : (intervalOf m e).holds count exponent = true) :
    Double.Attracts m e (count * 10 ^ exponent) := by
  have hden : (0 : ℚ) < (intervalOf m e).den := by exact_mod_cast intervalOf_den_pos
  have hpow : (0 : ℚ) < (Nat.pow 10 (-exponent).toNat : ℕ) := by
    exact_mod_cast natPow_pos 10 (by norm_num) _
  have hten := natPow_div_natPow 10 (by norm_num) exponent
  push_cast at hten
  have hvalue : (count : ℚ) * 10 ^ exponent
      = (count * Nat.pow 10 exponent.toNat : ℕ) / (Nat.pow 10 (-exponent).toNat : ℕ) := by
    rw [← hten]
    push_cast
    rw [mul_div_assoc]
  unfold Double.Attracts
  rw [← intervalOf_low_div hm, ← intervalOf_high_div, hvalue,
    div_le_div_iff₀ hden hpow, div_le_div_iff₀ hpow hden, div_lt_div_iff₀ hden hpow,
    div_lt_div_iff₀ hpow hden]
  have hclosed : (intervalOf m e).closed = decide (m % 2 = 0) := rfl
  unfold Interval.holds at h
  rw [hclosed] at h
  split at h
  next heven =>
    simp only [Bool.and_eq_true, decide_eq_true_eq] at h heven
    refine ⟨⟨by exact_mod_cast h.1, by exact_mod_cast h.2⟩, fun hodd => ?_⟩
    omega
  next =>
    simp only [Bool.and_eq_true, decide_eq_true_eq] at h
    refine ⟨⟨by exact_mod_cast h.1.le, by exact_mod_cast h.2.le⟩, fun _ => ?_⟩
    exact ⟨by exact_mod_cast h.1, by exact_mod_cast h.2⟩

end Interval

/-! ## The search -/

theorem Interval.nearest?_eq_some {i : Interval} {exponent : ℤ} {d : Decimal}
    (h : i.nearest? exponent = some d) :
    ∃ count, d = ofCount count exponent ∧ i.holds count exponent = true := by
  simp only [Interval.nearest?] at h
  generalize roundHalfEven _ _ = nearer at h
  generalize (if nearer = _ then _ else _) = further at h
  split at h
  next hnearer => exact ⟨_, (Option.some.inj h).symm, hnearer⟩
  next =>
    split at h
    next hfurther => exact ⟨_, (Option.some.inj h).symm, hfurther⟩
    next => simp at h

section Search

variable {m : ℕ} {e : ℤ}

/-- What misses a double by no more than half a unit in the seventeenth digit is attracted
by it. -/
theorem attracts_of_close (hm : m < mantissaLimit) {x step : ℚ}
    (hclose : |x - m * 2 ^ e| ≤ step / 2) (hstep : step * 10 ^ 16 ≤ m * 2 ^ e) :
    Double.Attracts m e x := by
  have hunit : (0 : ℚ) < 2 ^ (e - 2) := by positivity
  have hvalue : (m : ℚ) * 2 ^ e = 4 * m * 2 ^ (e - 2) := by
    rw [zpow_sub₀ (by norm_num)]
    ring
  have hbelow : (2 * m : ℚ) < Double.quartersBelow m e * 10 ^ 16 := by
    have hmlt : (m : ℚ) < 9007199254740992 := by exact_mod_cast hm
    unfold Double.quartersBelow
    split
    next hfull =>
      rw [hfull.1]
      norm_num [fullMantissa]
    next =>
      push_cast
      linarith
  have hle : (Double.quartersBelow m e : ℚ) * 2 ^ (e - 2) ≤ 2 * 2 ^ (e - 2) := by
    gcongr
    exact_mod_cast Double.quartersBelow_le m e
  rw [hvalue] at hclose hstep
  have hhalf : step / 2 < Double.quartersBelow m e * 2 ^ (e - 2) := by
    have hmul := mul_lt_mul_of_pos_right hbelow hunit
    linarith
  obtain ⟨hlow, hhigh⟩ := abs_le.mp hclose
  have hlow' : (4 * m - Double.quartersBelow m e : ℚ) * 2 ^ (e - 2) < x := by linarith
  have hhigh' : x < (4 * m + 2 : ℚ) * 2 ^ (e - 2) := by linarith
  exact ⟨⟨hlow'.le, hhigh'.le⟩, fun _ => ⟨hlow', hhigh'⟩⟩

/-- Rounding to significant digits misses a fraction by half a unit of the last one. -/
theorem significant_spec {num den : ℕ} (hnum : 0 < num) (hden : 0 < den) (count : ℕ) :
    ∃ c : ℕ, significant num den count = ofCount c (pointOf num den - count) ∧
      |(c : ℚ) * 10 ^ (pointOf num den - count) - num / den|
        ≤ 10 ^ (pointOf num den - count) / 2 := by
  generalize hexponent : pointOf num den - (count : ℤ) = exponent
  refine ⟨roundHalfEven (inUnits num den exponent).1 (inUnits num den exponent).2, ?_, ?_⟩
  · rw [significant, if_neg hnum.ne', hexponent]
  · have hstep : (0 : ℚ) < 10 ^ exponent := by positivity
    have herror := abs_roundHalfEven_sub_le (inUnits num den exponent).1 _
      (inUnits_snd_pos num den hden exponent)
    rw [inUnits_ratio] at herror
    generalize (roundHalfEven _ _ : ℚ) = c at herror
    have hscale : c * 10 ^ exponent - num / den
        = (c - num / den / 10 ^ exponent) * 10 ^ exponent := by
      field_simp
    rw [hscale, abs_mul, abs_of_pos hstep]
    calc |c - num / den / 10 ^ exponent| * 10 ^ exponent ≤ 1 / 2 * 10 ^ exponent := by gcongr
      _ = 10 ^ exponent / 2 := by ring

/-- Seventeen digits always single a double out. -/
theorem significant_attracts (hm : 0 < m) (hcanonical : Canonical m e) :
    ∃ count exponent, significant (intervalOf m e).middle (intervalOf m e).den 17
        = ofCount count exponent ∧ Double.Attracts m e (count * 10 ^ exponent) := by
  have hden : 0 < (intervalOf m e).den := intervalOf_den_pos
  have hvalue := intervalOf_middle_div (m := m) (e := e)
  have hmiddle : 0 < (intervalOf m e).middle :=
    Nat.mul_pos (Nat.mul_pos (by norm_num) hm) (natPow_pos 2 (by norm_num) _)
  have hpoint := ten_zpow_pointOf_le hmiddle hden (by
    rw [hvalue]
    have hmq : (1 : ℚ) ≤ m := by exact_mod_cast hm
    calc (2 : ℚ) ^ (-4000 : ℤ) ≤ 2 ^ e :=
        zpow_le_zpow_right₀ (by norm_num) (by have := hcanonical.2.1; omega)
      _ ≤ m * 2 ^ e := le_mul_of_one_le_left (by positivity) hmq)
  obtain ⟨count, heq, hclose⟩ := significant_spec hmiddle hden 17
  generalize pointOf (intervalOf m e).middle (intervalOf m e).den = point at *
  rw [hvalue] at hpoint hclose
  refine ⟨count, _, heq, attracts_of_close hcanonical.1 hclose ?_⟩
  calc (10 : ℚ) ^ (point - (17 : ℕ)) * 10 ^ 16 = 10 ^ (point - 1) := by
        rw [← zpow_natCast, ← zpow_add₀ (by norm_num)]
        congr 1
        push_cast
        ring
    _ ≤ m * 2 ^ e := hpoint

theorem search_attracts (hm : 0 < m) (hcanonical : Canonical m e) (point : ℤ) (steps count : ℕ)
    (hcount : steps + count = 17) :
    ∃ c exponent, (intervalOf m e).search point steps count = ofCount c exponent ∧
      Double.Attracts m e (c * 10 ^ exponent) := by
  induction steps generalizing count with
  | zero =>
      obtain rfl : count = 17 := by omega
      exact significant_attracts hm hcanonical
  | succ steps ih =>
      rw [Interval.search]
      split
      next d hfound =>
        obtain ⟨c, rfl, hholds⟩ := Interval.nearest?_eq_some hfound
        exact ⟨c, point - count, rfl, attracts_of_holds hm hholds⟩
      next => exact ih (count + 1) (by omega)

/-- The fewest digits of a double spell a number that it attracts. -/
theorem shortest_attracts (hm : 0 < m) (hcanonical : Canonical m e) :
    ∃ count exponent, 0 < count ∧ shortest m e = ofCount count exponent ∧
      Double.Attracts m e (count * 10 ^ exponent) := by
  obtain ⟨count, exponent, heq, hattracts⟩ := search_attracts hm hcanonical
    (pointOf (intervalOf m e).middle (intervalOf m e).den) 16 1 rfl
  refine ⟨count, exponent, ?_, ?_, hattracts⟩
  · rw [Nat.pos_iff_ne_zero]
    rintro rfl
    simpa using hattracts.pos hm
  · rw [shortest, if_neg hm.ne']
    exact heq

end Search

end CaseWorkflow.Decimal
