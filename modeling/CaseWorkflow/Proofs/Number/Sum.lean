import CaseWorkflow.Proofs.Number.Magnitude
import CaseWorkflow.Proofs.Number.Order

/-!
# Sums that do not fall

Rounding keeps the order of a fraction and a number of double precision.  What is added to
a number and is not negative therefore leaves it where it was, or higher.
-/

namespace CaseWorkflow

section Canonical

variable {n : ℕ} {f : ℤ}

/-- A mantissa in use stays below the next power of two. -/
theorem Canonical.mul_lt (h : Canonical n f) : (n : ℚ) * 2 ^ f < 2 ^ (f + 53) := by
  have hlimit : (n : ℚ) < 2 ^ (53 : ℤ) := by
    have hlt : (n : ℚ) < mantissaLimit := by exact_mod_cast h.1
    norm_num [mantissaLimit] at hlt ⊢
    exact hlt
  rw [zpow_add₀ (by norm_num), mul_comm]
  gcongr

/-- Above the least exponent, a mantissa in use has its highest bit. -/
theorem Canonical.le_mul (h : Canonical n f) (hf : -1074 < f) : (2 : ℚ) ^ (f + 52) ≤ n * 2 ^ f := by
  have hfull : ((2 : ℚ) ^ (52 : ℤ)) ≤ n := by
    have hle : (fullMantissa : ℚ) ≤ n := by exact_mod_cast h.2.2.2.resolve_right hf.ne'
    norm_num [fullMantissa] at hle ⊢
    exact hle
  rw [zpow_add₀ (by norm_num), mul_comm]
  gcongr

end Canonical

namespace Double

variable {num den n : ℕ} {f : ℤ}

/-! ## Rounding keeps the order -/

/-- The mantissa that a fraction is rounded to. -/
def roundedMantissa (num den : ℕ) : ℕ :=
  roundHalfEven (inUnits num den (exponentFor num den)).1
    (inUnits num den (exponentFor num den)).2

theorem abs_roundedMantissa_sub_le (num : ℕ) (hden : 0 < den) :
    |(roundedMantissa num den : ℚ) - num / den / 2 ^ exponentFor num den| ≤ 1 / 2 := by
  rw [← inUnits_ratio]
  exact abs_roundHalfEven_sub_le _ _ (inUnits_snd_pos num den hden _)

theorem le_roundedMantissa (hden : 0 < den) {k : ℕ}
    (h : (k : ℚ) * 2 ^ exponentFor num den ≤ num / den) : k ≤ roundedMantissa num den := by
  have hunit : (0 : ℚ) < 2 ^ exponentFor num den := by positivity
  have hnear := (abs_le.mp (abs_roundedMantissa_sub_le num hden)).1
  have hle : (k : ℚ) ≤ num / den / 2 ^ exponentFor num den := (le_div_iff₀ hunit).mpr h
  have hlt : (k : ℚ) < roundedMantissa num den + 1 := by linarith
  exact Nat.lt_succ_iff.mp (by exact_mod_cast hlt)

theorem roundedMantissa_le (hden : 0 < den) {k : ℕ}
    (h : (num : ℚ) / den ≤ k * 2 ^ exponentFor num den) : roundedMantissa num den ≤ k := by
  have hunit : (0 : ℚ) < 2 ^ exponentFor num den := by positivity
  have hnear := (abs_le.mp (abs_roundedMantissa_sub_le num hden)).2
  have hle : num / den / 2 ^ exponentFor num den ≤ (k : ℚ) := (div_le_iff₀ hunit).mpr h
  have hlt : (roundedMantissa num den : ℚ) < k + 1 := by linarith
  exact Nat.lt_succ_iff.mp (by exact_mod_cast hlt)

theorem lt_of_two_zpow_lt {a b : ℤ} (h : (2 : ℚ) ^ a < 2 ^ b) : a < b :=
  (zpow_lt_zpow_iff_right₀ (by norm_num)).mp h

theorem two_zpow_le {a b : ℤ} (h : a ≤ b) : (2 : ℚ) ^ a ≤ 2 ^ b :=
  zpow_le_zpow_right₀ (by norm_num) h

/-- A number below a fraction is not above what the fraction is rounded to. -/
theorem le_rounded (hnum : 0 < num) (hden : 0 < den) (hcanonical : Canonical n f)
    (h : (n : ℚ) * 2 ^ f ≤ num / den) :
    (n : ℚ) * 2 ^ f ≤ roundedMantissa num den * 2 ^ exponentFor num den := by
  obtain ⟨hleast, hhigh, hlow⟩ := exponentFor_spec num den hnum hden
  rcases lt_trichotomy f (exponentFor num den) with hlt | rfl | hgt
  · -- The fraction has a greater exponent, so that its mantissa has the highest bit.
    have hfraction := hlow.resolve_left (by have := hcanonical.2.1; omega)
    have hfull : fullMantissa ≤ roundedMantissa num den := by
      apply le_roundedMantissa hden
      rw [zpow_add₀ (by norm_num), mul_comm] at hfraction
      norm_num [fullMantissa] at hfraction ⊢
      exact hfraction
    calc (n : ℚ) * 2 ^ f
      _ ≤ 2 ^ (f + 53) := hcanonical.mul_lt.le
      _ ≤ 2 ^ (52 + exponentFor num den) := two_zpow_le (by omega)
      _ = (fullMantissa : ℚ) * 2 ^ exponentFor num den := by
          rw [zpow_add₀ (by norm_num)]
          norm_num [fullMantissa]
      _ ≤ roundedMantissa num den * 2 ^ exponentFor num den := by gcongr
  · have hmantissa := le_roundedMantissa hden h
    gcongr
  · have hpowers : (2 : ℚ) ^ (f + 52) < 2 ^ (exponentFor num den + 53) :=
      ((hcanonical.le_mul (by omega)).trans h).trans_lt hhigh
    have := lt_of_two_zpow_lt hpowers
    omega

/-- A number above a fraction is not below what the fraction is rounded to, and has no smaller
exponent. -/
theorem rounded_le (hnum : 0 < num) (hden : 0 < den) (hcanonical : Canonical n f)
    (h : (num : ℚ) / den ≤ n * 2 ^ f) :
    exponentFor num den ≤ f ∧
      (roundedMantissa num den : ℚ) * 2 ^ exponentFor num den ≤ n * 2 ^ f := by
  obtain ⟨hleast, hhigh, hlow⟩ := exponentFor_spec num den hnum hden
  have hexponent : exponentFor num den ≤ f := by
    by_contra hgt
    have hfraction := hlow.resolve_left (by have := hcanonical.2.1; omega)
    have := lt_of_two_zpow_lt ((hfraction.trans h).trans_lt hcanonical.mul_lt)
    omega
  have hscaled := scaled_down n hexponent
  refine ⟨hexponent, ?_⟩
  rw [← hscaled] at h ⊢
  have hmantissa := roundedMantissa_le hden h
  gcongr

/-! ## The number that a fraction is rounded to -/

theorem rank_finite (negative : Bool) (m : ℕ) (e : ℤ) (hcanonical : Canonical m e) :
    (finite negative m e hcanonical).rank = (((signed negative m : ℚ) * 2 ^ e : ℚ) : WithTop ℚ) :=
  rfl

theorem coe_le_coe {x y : ℚ} (h : x ≤ y) : ((x : WithTop ℚ) : Line) ≤ ((y : WithTop ℚ) : Line) :=
  WithBot.coe_le_coe.mpr (WithTop.coe_le_coe.mpr h)

theorem le_rank_pack (m : ℕ) (e : ℤ) :
    (((m : ℚ) * 2 ^ e : ℚ) : WithTop ℚ) ≤ (pack false m e).rank := by
  unfold pack
  split
  next hcanonical => exact le_rfl
  next => exact WithBot.coe_le_coe.mpr le_top

theorem rank_pack_true {m : ℕ} {e : ℤ} (hcanonical : Canonical m e) :
    (pack true m e).rank = ((-((m : ℚ) * 2 ^ e) : ℚ) : WithTop ℚ) := by
  have hvalue : (signed true m : ℚ) * 2 ^ e = -((m : ℚ) * 2 ^ e) := by simp [signed]
  rw [pack, dif_pos hcanonical, rank_finite, hvalue]

theorem fullMantissa_mul (e : ℤ) :
    (fullMantissa : ℚ) * 2 ^ (e + 1) = (mantissaLimit : ℚ) * 2 ^ e := by
  rw [zpow_add_one₀ (by norm_num)]
  norm_num [fullMantissa, mantissaLimit]
  ring

theorem ofRatio_eq (negative : Bool) (hnum : 0 < num) (den : ℕ) :
    ofRatio negative num den =
      if roundedMantissa num den = mantissaLimit then
        pack negative fullMantissa (exponentFor num den + 1)
      else pack negative (roundedMantissa num den) (exponentFor num den) := by
  rw [ofRatio, if_neg hnum.ne']
  rfl

/-- The number nearest to a fraction is not below a number below the fraction. -/
theorem le_rank_ofRatio (hnum : 0 < num) (hden : 0 < den) (hcanonical : Canonical n f)
    (h : (n : ℚ) * 2 ^ f ≤ num / den) :
    (((n : ℚ) * 2 ^ f : ℚ) : WithTop ℚ) ≤ (ofRatio false num den).rank := by
  have hle := le_rounded hnum hden hcanonical h
  rw [ofRatio_eq false hnum]
  split
  next heq =>
    rw [heq, ← fullMantissa_mul] at hle
    exact (coe_le_coe hle).trans (le_rank_pack _ _)
  next => exact (coe_le_coe hle).trans (le_rank_pack _ _)

/-- The number nearest to a fraction below zero is not below a number below the fraction. -/
theorem le_rank_ofRatio_negative (hnum : 0 < num) (hden : 0 < den) (hcanonical : Canonical n f)
    (h : (num : ℚ) / den ≤ n * 2 ^ f) :
    ((-((n : ℚ) * 2 ^ f) : ℚ) : WithTop ℚ) ≤ (ofRatio true num den).rank := by
  obtain ⟨hexponent, hle⟩ := rounded_le hnum hden hcanonical h
  obtain ⟨hleast, hhigh, hlow⟩ := exponentFor_spec num den hnum hden
  have hgreatest := hcanonical.2.2.1
  have hlimit : roundedMantissa num den ≤ mantissaLimit := by
    apply roundedMantissa_le hden
    rw [zpow_add₀ (by norm_num), mul_comm] at hhigh
    norm_num [mantissaLimit] at hhigh ⊢
    exact hhigh.le
  rw [ofRatio_eq true hnum]
  split
  next heq =>
    rw [heq] at hle
    have hless : exponentFor num den < f := by
      have hpowers := hle.trans_lt hcanonical.mul_lt
      rw [show (mantissaLimit : ℚ) = 2 ^ (53 : ℤ) by norm_num [mantissaLimit],
        ← zpow_add₀ (by norm_num)] at hpowers
      have := lt_of_two_zpow_lt hpowers
      omega
    rw [rank_pack_true ⟨by decide, by omega, by omega, .inl le_rfl⟩, fullMantissa_mul]
    exact coe_le_coe (neg_le_neg hle)
  next hne =>
    have hfull : fullMantissa ≤ roundedMantissa num den ∨ exponentFor num den = -1074 := by
      rcases hlow with hlow | hlow
      · exact .inr hlow
      · left
        apply le_roundedMantissa hden
        rw [zpow_add₀ (by norm_num), mul_comm] at hlow
        norm_num [fullMantissa] at hlow ⊢
        exact hlow
    rw [rank_pack_true ⟨lt_of_le_of_ne hlimit hne, hleast, by omega, hfull⟩]
    exact coe_le_coe (neg_le_neg hle)

/-! ## Sums -/

variable {x d : Double}

theorem zero_le_rank_ofRatio (num den : ℕ) :
    ((0 : ℚ) : WithTop ℚ) ≤ (ofRatio false num den).rank := by
  have hpack : ∀ m e, (((0 : ℚ) : WithTop ℚ) : Line) ≤ (pack false m e).rank := fun m e =>
    (coe_le_coe (by positivity)).trans (le_rank_pack m e)
  unfold ofRatio
  dsimp only
  split
  next => exact coe_le_coe (by simp [BinaryFraction.value, signed])
  next =>
    split
    next => exact hpack _ _
    next => exact hpack _ _

/-- A fraction is rounded to a number with its sign. -/
theorem ofRatio_cases (negative : Bool) (num den : ℕ) :
    (∃ m e hcanonical, ofRatio negative num den = .finite negative m e hcanonical) ∨
      ofRatio negative num den = .infinity negative := by
  have hpack : ∀ m e, (∃ m' e' hcanonical, pack negative m e = .finite negative m' e' hcanonical) ∨
      pack negative m e = .infinity negative := by
    intro m e
    unfold pack
    split
    next hcanonical => exact .inl ⟨m, e, hcanonical, rfl⟩
    next => exact .inr rfl
  unfold ofRatio
  dsimp only
  split
  next => exact .inl ⟨0, -1074, by decide, rfl⟩
  next =>
    split
    next => exact hpack _ _
    next => exact hpack _ _

theorem ofRatio_ne_nan (negative : Bool) (num den : ℕ) : ofRatio negative num den ≠ .nan := by
  rcases ofRatio_cases negative num den with ⟨m, e, hcanonical, heq⟩ | heq <;> simp [heq]

/-- A natural number that is small enough is finite and not negative. -/
theorem exists_ofNat_eq {n k : ℕ} (h : n ≤ 2 ^ k) (hk : k ≤ 900) :
    ∃ m e hcanonical, ofNat n = .finite false m e hcanonical := by
  have hwithin := within_ofNat h hk
  rcases ofRatio_cases false n 1 with hfinite | hinfinite
  · exact hfinite
  · rw [ofNat, hinfinite] at hwithin
    exact hwithin.elim

theorem exists_eq_of_ofInt? {i : ℤ} {d : Double} (h : ofInt? i = some d) (hi : 0 ≤ i) :
    ∃ m e hcanonical, d = .finite false m e hcanonical := by
  have hsign : decide (i < 0) = false := decide_eq_false (not_lt.mpr hi)
  unfold ofInt? at h
  rw [hsign] at h
  rcases ofRatio_cases false i.natAbs 1 with ⟨m, e, hcanonical, heq⟩ | heq
  · rw [heq] at h
    exact ⟨m, e, hcanonical, (Option.some.inj h).symm⟩
  · rw [heq] at h
    cases h

/-- A sum in units of the smaller exponent. -/
theorem signed_add_mul (negative : Bool) (m n : ℕ) (e f : ℤ) :
    ((signed negative (m * Nat.pow 2 (e - min e f).toNat)
        + signed false (n * Nat.pow 2 (f - min e f).toNat) : ℤ) : ℚ) * 2 ^ min e f
      = signed negative m * 2 ^ e + n * 2 ^ f := by
  have hm := scaled_down m (min_le_left e f)
  have hn := scaled_down n (min_le_right e f)
  rw [Int.cast_add, add_mul, ← hn]
  congr 1
  cases negative with
  | false => exact_mod_cast hm
  | true =>
      simp only [signed, if_true, Int.cast_neg, Int.cast_natCast, neg_mul]
      rw [← hm]

/-- What is not negative does not lower a number that it is added to. -/
theorem le_add (hx : x ≠ .nan) {n : ℕ} {f : ℤ} (hcanonical : Canonical n f) :
    x.le (x.add (.finite false n f hcanonical)) = true := by
  cases x with
  | nan => exact absurd rfl hx
  | infinity negative => cases negative <;> rfl
  | finite negative m e hcanonical' =>
      have hadded : (0 : ℚ) ≤ n * 2 ^ f := by positivity
      have hmagnitude : (0 : ℚ) ≤ m * 2 ^ e := by positivity
      have hsum := signed_add_mul negative m n e f
      rw [add]
      generalize signed negative (m * Nat.pow 2 (e - min e f).toNat)
        + signed false (n * Nat.pow 2 (f - min e f).toNat) = sum at hsum ⊢
      have hle : (signed negative m : ℚ) * 2 ^ e ≤ sum * 2 ^ min e f := by linarith
      have hunit : (0 : ℚ) < 2 ^ min e f := by positivity
      split
      next hzero =>
        rw [le_iff hx (by simp [zeroOf]), rank_finite]
        apply coe_le_coe
        rw [hzero, Int.cast_zero, zero_mul] at hle
        simpa [BinaryFraction.value, signed] using hle
      next hne =>
        have hratio : ((sum.natAbs * Nat.pow 2 (min e f).toNat : ℕ) : ℚ)
            / (Nat.pow 2 (-min e f).toNat : ℕ) = sum.natAbs * 2 ^ min e f := by
          rw [Nat.cast_mul, mul_div_assoc, natPow_div_natPow 2 (by norm_num), Nat.cast_ofNat]
        have hnum : 0 < sum.natAbs * Nat.pow 2 (min e f).toNat :=
          Nat.mul_pos (Int.natAbs_pos.mpr hne) (natPow_pos 2 (by norm_num) _)
        have hden : 0 < Nat.pow 2 (-min e f).toNat := natPow_pos 2 (by norm_num) _
        rw [ofScaled, le_iff hx (ofRatio_ne_nan _ _ _), rank_finite]
        by_cases hbelow : sum < 0
        · have habs : (sum.natAbs : ℚ) = -sum := by
            rw [← Int.cast_natCast, Int.ofNat_natAbs_of_nonpos hbelow.le, Int.cast_neg]
          have hsum : (sum : ℚ) * 2 ^ min e f < 0 :=
            mul_neg_of_neg_of_pos (by exact_mod_cast hbelow) hunit
          rw [decide_eq_true hbelow]
          cases negative with
          | false =>
              have hm : (0 : ℚ) ≤ (signed false m : ℚ) * 2 ^ e := by simpa [signed] using hmagnitude
              linarith
          | true =>
              have hm : (signed true m : ℚ) * 2 ^ e = -((m : ℚ) * 2 ^ e) := by simp [signed]
              rw [hm] at hle ⊢
              apply le_rank_ofRatio_negative hnum hden hcanonical'
              rw [hratio, habs]
              linarith
        · have habs : (sum.natAbs : ℚ) = sum := by
            rw [← Int.cast_natCast, Int.natAbs_of_nonneg (not_lt.mp hbelow)]
          rw [decide_eq_false hbelow]
          cases negative with
          | false =>
              apply le_rank_ofRatio hnum hden hcanonical'
              rw [hratio, habs]
              exact hle
          | true =>
              have hm : (signed true m : ℚ) * 2 ^ e ≤ 0 := by simpa [signed] using hmagnitude
              exact (coe_le_coe hm).trans (zero_le_rank_ofRatio _ _)

end Double

end CaseWorkflow
