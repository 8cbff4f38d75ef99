import CaseWorkflow.Proofs.Number.Rounding
import CaseWorkflow.Proofs.Number.Digits
import CaseWorkflow.Number.Order

/-!
# How great numbers become

A rounded fraction is at most half a unit greater than the fraction, so that a power of two
that bounds the fraction bounds the number up to one more factor of two.  Sums and products
of bounded numbers are bounded, and far from overflowing.
-/

namespace CaseWorkflow.Double

/-- The number is finite and no greater than a power of two. -/
def Within (k : ℕ) : Double → Prop
  | .finite _ mantissa exponent _ => (mantissa : ℚ) * 2 ^ exponent ≤ 2 ^ k
  | _ => False

variable {a b d : Double} {j k num den count factor : ℕ}

theorem Within.mono (h : Within j d) (hle : j ≤ k) : Within k d := by
  cases d with
  | finite negative m e hcanonical => exact le_trans h (pow_le_pow_right₀ (by norm_num) hle)
  | _ => exact h

theorem within_zeroOf (negative : Bool) (k : ℕ) : Within k (zeroOf negative) := by
  change ((0 : ℕ) : ℚ) * _ ≤ _
  simp

theorem within_pack (negative : Bool) {m : ℕ} {e : ℤ} (hcanonical : Canonical m e)
    (h : (m : ℚ) * 2 ^ e ≤ 2 ^ k) : Within k (pack negative m e) := by
  rw [pack, dif_pos hcanonical]
  exact h

/-- A rounded fraction has a mantissa of 53 bits or the least greater one, and of fewer bits only
at the least exponent. -/
theorem rounded_spec (hnum : 0 < num) (hden : 0 < den) (hle : (num : ℚ) / den ≤ 2 ^ k) :
    let e := exponentFor num den
    let m := roundHalfEven (inUnits num den e).1 (inUnits num den e).2
    m ≤ mantissaLimit ∧ (-1074 ≤ e ∧ e ≤ k) ∧ (fullMantissa ≤ m ∨ e = -1074) ∧
      (m : ℚ) * 2 ^ e ≤ 2 ^ (k + 1) := by
  intro e m
  obtain ⟨hleast, hhigh, hlow⟩ := exponentFor_spec num den hnum hden
  have hpow : (0 : ℚ) < 2 ^ e := by positivity
  have hround : |(m : ℚ) - num / den / 2 ^ e| ≤ 1 / 2 := by
    rw [← inUnits_ratio]
    exact abs_roundHalfEven_sub_le _ _ (inUnits_snd_pos num den hden e)
  obtain ⟨hbelow, habove⟩ := abs_le.mp hround
  have hle53 : (num : ℚ) / den / 2 ^ e < 2 ^ 53 := by
    rw [div_lt_iff₀ hpow, ← zpow_natCast, ← zpow_add₀ (by norm_num), add_comm]
    exact hhigh
  have hlimit : m ≤ mantissaLimit := by
    have hcast : ((mantissaLimit : ℕ) : ℚ) = 2 ^ 53 := by norm_num [mantissaLimit]
    have hlt : (m : ℚ) < mantissaLimit + 1 := by
      rw [hcast]
      linarith
    exact Nat.lt_succ_iff.mp (by exact_mod_cast hlt)
  have hexponent : e ≤ k := by
    rcases hlow with hleast | hlow
    · omega
    · have hpowers : (2 : ℚ) ^ (e + 52) ≤ 2 ^ (k : ℤ) := hlow.trans (by exact_mod_cast hle)
      have := (zpow_le_zpow_iff_right₀ (by norm_num : (1 : ℚ) < 2)).mp hpowers
      omega
  refine ⟨hlimit, ⟨hleast, hexponent⟩, ?_, ?_⟩
  · rcases hlow with hleast | hlow
    · exact .inr hleast
    · left
      have hge52 : (2 : ℚ) ^ 52 ≤ num / den / 2 ^ e := by
        rw [le_div_iff₀ hpow, ← zpow_natCast, ← zpow_add₀ (by norm_num), add_comm]
        exact hlow
      have hcast : ((fullMantissa : ℕ) : ℚ) = 2 ^ 52 := by norm_num [fullMantissa]
      have hlt : (fullMantissa : ℚ) < m + 1 := by
        rw [hcast]
        linarith
      exact Nat.lt_succ_iff.mp (by exact_mod_cast hlt)
  · have hunit : (2 : ℚ) ^ e ≤ 2 ^ k := by
      rw [← zpow_natCast]
      exact zpow_le_zpow_right₀ (by norm_num) hexponent
    calc (m : ℚ) * 2 ^ e
      _ ≤ (num / den / 2 ^ e + 1 / 2) * 2 ^ e := by
          gcongr
          linarith
      _ = num / den + 2 ^ e / 2 := by field_simp
      _ ≤ 2 ^ (k + 1) := by
          rw [pow_succ]
          linarith

theorem within_ofRatio (negative : Bool) (hden : 0 < den) (hk : k ≤ 900)
    (hle : (num : ℚ) / den ≤ 2 ^ k) : Within (k + 1) (ofRatio negative num den) := by
  rcases Nat.eq_zero_or_pos num with rfl | hnum
  · exact within_zeroOf negative _
  obtain ⟨hlimit, ⟨hleast, hexponent⟩, hfull, hbound⟩ := rounded_spec hnum hden hle
  rw [ofRatio, if_neg hnum.ne']
  dsimp only
  split
  next heq =>
    apply within_pack
    · exact ⟨by decide, by omega, by omega, .inl le_rfl⟩
    · rw [heq] at hbound
      rw [zpow_add_one₀ (by norm_num)]
      norm_num [mantissaLimit, fullMantissa] at hbound ⊢
      linarith
  next hne =>
    apply within_pack _ ⟨lt_of_le_of_ne hlimit hne, hleast, by omega, hfull⟩ hbound

theorem within_ofNat (h : num ≤ 2 ^ k) (hk : k ≤ 900) : Within (k + 1) (ofNat num) := by
  apply within_ofRatio false Nat.one_pos hk
  rw [Nat.cast_one, div_one]
  exact_mod_cast h

theorem within_ofScaled (negative : Bool) {e : ℤ} (hk : k ≤ 900)
    (h : (count : ℚ) * 2 ^ e ≤ 2 ^ k) : Within (k + 1) (ofScaled negative count e) := by
  apply within_ofRatio negative (natPow_pos 2 (by norm_num) _) hk
  rw [Nat.cast_mul, mul_div_assoc, natPow_div_natPow 2 (by norm_num)]
  exact_mod_cast h

theorem Within.scale (h : Within k d) (hfactor : factor ≤ 2 ^ j) (hk : k + j ≤ 900) :
    Within (k + j + 1) (d.scale factor) := by
  cases d with
  | finite negative m e hcanonical =>
      apply within_ofScaled negative hk
      have hfactor : (factor : ℚ) ≤ 2 ^ j := by exact_mod_cast hfactor
      have hd : (m : ℚ) * 2 ^ e ≤ 2 ^ k := h
      calc ((m * factor : ℕ) : ℚ) * 2 ^ e
        _ = m * 2 ^ e * factor := by
            push_cast
            ring
        _ ≤ 2 ^ k * 2 ^ j := by gcongr
        _ = 2 ^ (k + j) := (pow_add 2 k j).symm
  | _ => exact h.elim

/-- A count in smaller units. -/
theorem scaled_down (count : ℕ) {least e : ℤ} (h : least ≤ e) :
    ((count * Nat.pow 2 (e - least).toNat : ℕ) : ℚ) * 2 ^ least = count * 2 ^ e := by
  rw [Nat.cast_mul, Nat.pow_eq, Nat.cast_pow, mul_assoc, ← zpow_natCast, Nat.cast_ofNat,
    ← zpow_add₀ (by norm_num)]
  congr 2
  omega

theorem natAbs_signed_add_le (a b : Bool) (m n : ℕ) :
    (signed a m + signed b n).natAbs ≤ m + n := by
  cases a <;> cases b <;> simp only [signed] <;> omega

theorem Within.add (ha : Within k a) (hb : Within k b) (hk : k + 1 ≤ 900) :
    Within (k + 2) (a.add b) := by
  cases a with
  | finite negative m e hcanonical =>
      cases b with
      | finite negative' n f hcanonical' =>
          have ha : (m : ℚ) * 2 ^ e ≤ 2 ^ k := ha
          have hb : (n : ℚ) * 2 ^ f ≤ 2 ^ k := hb
          rw [Double.add]
          split
          next => exact within_zeroOf _ _
          next =>
            apply within_ofScaled _ hk
            calc ((signed negative (m * Nat.pow 2 (e - min e f).toNat)
                  + signed negative' (n * Nat.pow 2 (f - min e f).toNat)).natAbs : ℚ) * 2 ^ min e f
              _ ≤ ((m * Nat.pow 2 (e - min e f).toNat + n * Nat.pow 2 (f - min e f).toNat : ℕ) : ℚ)
                    * 2 ^ min e f := by
                  gcongr
                  exact natAbs_signed_add_le _ _ _ _
              _ = m * 2 ^ e + n * 2 ^ f := by
                  rw [Nat.cast_add, add_mul, scaled_down m (min_le_left e f),
                    scaled_down n (min_le_right e f)]
              _ ≤ 2 ^ (k + 1) := by
                  rw [pow_succ]
                  linarith
      | _ => exact hb.elim
  | _ => exact ha.elim

theorem Within.round? (h : Within k d) : ∃ i, d.round? = some i ∧ i.natAbs ≤ 2 ^ k + 1 := by
  cases d with
  | finite negative m e hcanonical =>
      have hd : (m : ℚ) * 2 ^ e ≤ 2 ^ k := h
      have hden := inUnits_snd_pos m 1 Nat.one_pos (-e)
      have hratio : ((inUnits m 1 (-e)).1 : ℚ) / (inUnits m 1 (-e)).2 ≤ (2 ^ k : ℕ) := by
        rw [inUnits_ratio, Nat.cast_one, div_one, zpow_neg, div_inv_eq_mul]
        exact_mod_cast hd
      have hfloor : (inUnits m 1 (-e)).1 / (inUnits m 1 (-e)).2 ≤ 2 ^ k := by
        rw [div_le_iff₀ (by exact_mod_cast hden)] at hratio
        apply Nat.div_le_of_le_mul
        rw [mul_comm]
        exact_mod_cast hratio
      refine ⟨_, rfl, ?_⟩
      rw [natAbs_signed]
      exact (roundHalfEven_le _ _).trans (Nat.add_le_add_right hfloor 1)
  | _ => exact h.elim

section Split

variable {negative : Bool} {m : ℕ} {e whole : ℤ} {hcanonical : Canonical m e} {part : Double}

theorem within_part_of_split
    (h : (finite negative m e hcanonical).split = some (whole, part)) : Within 1 part := by
  obtain ⟨-, rfl⟩ := Prod.mk.inj (Option.some.inj h)
  have hunit : 0 < Nat.pow 2 (-e).toNat := natPow_pos 2 (by norm_num) _
  have hunitq : (0 : ℚ) < (Nat.pow 2 (-e).toNat : ℕ) := by exact_mod_cast hunit
  apply within_ofRatio negative hunit (k := 0) (by norm_num)
  rw [div_le_iff₀ hunitq, pow_zero, one_mul]
  exact_mod_cast (Nat.mod_lt _ hunit).le

/-- A number whose whole part is below a power of two is no greater than the power. -/
theorem within_of_split (h : (finite negative m e hcanonical).split = some (whole, part))
    (hwhole : whole.natAbs < 2 ^ k) : Within k (finite negative m e hcanonical) := by
  obtain ⟨rfl, -⟩ := Prod.mk.inj (Option.some.inj h)
  have hunit : 0 < Nat.pow 2 (-e).toNat := natPow_pos 2 (by norm_num) _
  have hunitq : (0 : ℚ) < (Nat.pow 2 (-e).toNat : ℕ) := by exact_mod_cast hunit
  have hpower := natPow_div_natPow 2 (by norm_num) e
  rw [natAbs_signed, Nat.div_lt_iff_lt_mul hunit] at hwhole
  change (m : ℚ) * 2 ^ e ≤ 2 ^ k
  rw [Nat.cast_ofNat] at hpower
  rw [← hpower, ← mul_div_assoc, div_le_iff₀ hunitq]
  exact_mod_cast hwhole.le

end Split

/-- A number above a power of two is not below what the power bounds. -/
theorem Within.le_eq_false (h : Within k d) {m : ℕ} {e : ℤ} (hcanonical : Canonical m e)
    (hlt : (2 : ℚ) ^ k < m * 2 ^ e) : (finite false m e hcanonical).le d = false := by
  cases d with
  | finite negative n f hcanonical' =>
      have hd : (n : ℚ) * 2 ^ f ≤ 2 ^ k := h
      have hgt : Number.cmp? (.float (finite false m e hcanonical))
          (.float (finite negative n f hcanonical')) = some .gt := by
        have hnat : n * Nat.pow 2 (f - min e f).toNat < m * Nat.pow 2 (e - min e f).toNat := by
          have hunit : (0 : ℚ) < 2 ^ min e f := by positivity
          have hscaled := hd.trans_lt hlt
          rw [← scaled_down n (min_le_right e f), ← scaled_down m (min_le_left e f)] at hscaled
          exact_mod_cast lt_of_mul_lt_mul_right hscaled hunit.le
        have hsigned : signed negative n ≤ n := by
          cases negative <;> simp only [signed] <;> omega
        simp only [Number.cmp?, Number.place?, Place.cmp, BinaryFraction.cmp,
          BinaryFraction.withExponent, Option.some.injEq, compare_gt_iff_gt]
        calc signed negative n * ↑(Nat.pow 2 (f - min e f).toNat)
          _ ≤ (n : ℤ) * ↑(Nat.pow 2 (f - min e f).toNat) := by gcongr
          _ < (m : ℤ) * ↑(Nat.pow 2 (e - min e f).toNat) := by exact_mod_cast hnat
          _ = signed false m * ↑(Nat.pow 2 (e - min e f).toNat) := rfl
      simp [Double.le, Number.le, Number.lt, Number.eq, hgt]
  | _ => exact h.elim

end CaseWorkflow.Double
