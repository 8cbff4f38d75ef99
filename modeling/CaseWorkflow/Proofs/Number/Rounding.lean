import CaseWorkflow.Number.Double
import Mathlib.Tactic

/-!
# Rounding to the nearest double

A double attracts the fractions that lie nearer to it than to its neighbours, and those
half way if its mantissa is even.  The reader of fractions gives every one of them that
double.  Everything is stated on rational numbers; the counts of units in the program are
brought there by one lemma on powers.
-/

namespace CaseWorkflow

/-- A power with an integer exponent is a quotient of powers with natural ones. -/
theorem natPow_div_natPow (b : ℕ) (hb : 0 < b) (z : ℤ) :
    ((Nat.pow b z.toNat : ℕ) : ℚ) / ((Nat.pow b (-z).toNat : ℕ) : ℚ) = (b : ℚ) ^ z := by
  have hbq : (b : ℚ) ≠ 0 := by exact_mod_cast hb.ne'
  simp only [Nat.pow_eq, Nat.cast_pow]
  rw [← zpow_natCast, ← zpow_natCast, ← zpow_sub₀ hbq]
  congr 1
  omega

theorem natPow_pos (b : ℕ) (hb : 0 < b) (n : ℕ) : 0 < Nat.pow b n :=
  Nat.pow_pos hb

/-- Powers of natural numbers are compared as rational numbers. -/
theorem zpow_le_zpow_of_pow_le {a b x y : ℕ} (h : a ^ x ≤ b ^ y) :
    (a : ℚ) ^ (x : ℤ) ≤ (b : ℚ) ^ (y : ℤ) := by
  rw [zpow_natCast, zpow_natCast]
  exact_mod_cast h

/-- The binary logarithms of a fraction's parts bound it from below. -/
theorem two_zpow_log2_sub_le {num den : ℕ} (hnum : 0 < num) (hden : 0 < den) :
    (2 : ℚ) ^ ((num.log2 : ℤ) - den.log2 - 1) ≤ num / den := by
  have hdenq : (0 : ℚ) < den := by exact_mod_cast hden
  have h1 : ((2 ^ num.log2 : ℕ) : ℚ) ≤ num := by exact_mod_cast Nat.log2_self_le hnum.ne'
  have h2 : (den : ℚ) ≤ ((2 ^ (den.log2 + 1) : ℕ) : ℚ) := by
    exact_mod_cast (Nat.lt_log2_self (n := den)).le
  rw [le_div_iff₀ hdenq]
  calc (2 : ℚ) ^ ((num.log2 : ℤ) - den.log2 - 1) * den
      ≤ 2 ^ ((num.log2 : ℤ) - den.log2 - 1) * ((2 ^ (den.log2 + 1) : ℕ) : ℚ) :=
        mul_le_mul_of_nonneg_left h2 (by positivity)
    _ = ((2 ^ num.log2 : ℕ) : ℚ) := by
        push_cast
        rw [← zpow_natCast, ← zpow_natCast, ← zpow_add₀ (by norm_num)]
        congr 1
        push_cast
        ring
    _ ≤ num := h1

/-- The binary logarithms of a fraction's parts bound it from above. -/
theorem lt_two_zpow_log2_sub {num den : ℕ} (hden : 0 < den) :
    (num : ℚ) / den < 2 ^ ((num.log2 : ℤ) - den.log2 + 1) := by
  have hdenq : (0 : ℚ) < den := by exact_mod_cast hden
  have h1 : (num : ℚ) < ((2 ^ (num.log2 + 1) : ℕ) : ℚ) := by
    exact_mod_cast Nat.lt_log2_self (n := num)
  have h2 : ((2 ^ den.log2 : ℕ) : ℚ) ≤ den := by exact_mod_cast Nat.log2_self_le hden.ne'
  rw [div_lt_iff₀ hdenq]
  calc (num : ℚ) < ((2 ^ (num.log2 + 1) : ℕ) : ℚ) := h1
    _ = 2 ^ ((num.log2 : ℤ) - den.log2 + 1) * ((2 ^ den.log2 : ℕ) : ℚ) := by
        push_cast
        rw [← zpow_natCast, ← zpow_natCast, ← zpow_add₀ (by norm_num)]
        congr 1
        push_cast
        ring
    _ ≤ 2 ^ ((num.log2 : ℤ) - den.log2 + 1) * den :=
        mul_le_mul_of_nonneg_left h2 (by positivity)

/-! ## Rounding a quotient -/

/-- A quotient within half a unit of a number is rounded to it, a tie to an even one. -/
theorem roundHalfEven_eq {num den k : ℕ} (hden : 0 < den)
    (hlow : 2 * (den * k) ≤ 2 * num + den) (hhigh : 2 * num ≤ 2 * (den * k) + den)
    (hodd : k % 2 = 1 → 2 * (den * k) < 2 * num + den ∧ 2 * num < 2 * (den * k) + den) :
    roundHalfEven num den = k := by
  have hdiv : den * (num / den) + num % den = num := Nat.div_add_mod num den
  have hrest : num % den < den := Nat.mod_lt num hden
  have hcases : num / den = k ∨ num / den + 1 = k := by
    rcases Nat.lt_trichotomy (num / den) k with hlt | heq | hgt
    · right
      by_contra hne
      have hmul : den * (num / den + 2) ≤ den * k := Nat.mul_le_mul_left den (by omega)
      have hexpand : den * (num / den + 2) = den * (num / den) + 2 * den := by ring
      omega
    · exact .inl heq
    · exfalso
      have hmul : den * (k + 1) ≤ den * (num / den) := Nat.mul_le_mul_left den hgt
      have hexpand : den * (k + 1) = den * k + den := by ring
      omega
  simp only [roundHalfEven]
  rcases hcases with heq | heq
  · rw [heq] at hdiv ⊢
    split
    · rfl
    · split
      · omega
      · split
        · rfl
        · have := (hodd (by omega)).2
          omega
  · have hk : den * k = den * (num / den) + den := by rw [← heq]; ring
    split
    · omega
    · split
      · exact heq
      · split
        · have := (hodd (by omega)).1
          omega
        · exact heq

/-- The same for the quotient as a rational number. -/
theorem roundHalfEven_eq_of_near {num den k : ℕ} (hden : 0 < den)
    (hlow : (k : ℚ) - 1 / 2 ≤ num / den) (hhigh : (num : ℚ) / den ≤ k + 1 / 2)
    (hodd : k % 2 = 1 → (k : ℚ) - 1 / 2 < num / den ∧ (num : ℚ) / den < k + 1 / 2) :
    roundHalfEven num den = k := by
  have hdenq : (0 : ℚ) < den := by exact_mod_cast hden
  rw [le_div_iff₀ hdenq] at hlow
  rw [div_le_iff₀ hdenq] at hhigh
  rw [lt_div_iff₀ hdenq, div_lt_iff₀ hdenq] at hodd
  apply roundHalfEven_eq hden
  · have : 2 * ((den : ℚ) * k) ≤ 2 * num + den := by linarith
    exact_mod_cast this
  · have : 2 * (num : ℚ) ≤ 2 * (den * k) + den := by linarith
    exact_mod_cast this
  · intro h
    obtain ⟨hl, hh⟩ := hodd h
    constructor
    · have : 2 * ((den : ℚ) * k) < 2 * num + den := by linarith
      exact_mod_cast this
    · have : 2 * (num : ℚ) < 2 * (den * k) + den := by linarith
      exact_mod_cast this

theorem abs_roundHalfEven_sub_le (num den : ℕ) (hden : 0 < den) :
    |(roundHalfEven num den : ℚ) - num / den| ≤ 1 / 2 := by
  have hdenq : (0 : ℚ) < den := by exact_mod_cast hden
  have hdiv : den * (num / den) + num % den = num := Nat.div_add_mod num den
  have hrest : num % den < den := Nat.mod_lt num hden
  have hquot : (num : ℚ) / den = (num / den : ℕ) + (num % den : ℕ) / (den : ℚ) := by
    field_simp
    exact_mod_cast hdiv.symm
  have hfraction : (0 : ℚ) ≤ (num % den : ℕ) / (den : ℚ) := by positivity
  have hsmall : 2 * (num % den) ≤ den → ((num % den : ℕ) : ℚ) / den ≤ 1 / 2 := by
    intro h
    rw [div_le_div_iff₀ hdenq (by norm_num)]
    exact_mod_cast (by omega : num % den * 2 ≤ 1 * den)
  have hlarge : den ≤ 2 * (num % den) → (1 : ℚ) / 2 ≤ (num % den : ℕ) / (den : ℚ) := by
    intro h
    rw [div_le_div_iff₀ (by norm_num) hdenq]
    exact_mod_cast (by omega : 1 * den ≤ num % den * 2)
  have hone : ((num % den : ℕ) : ℚ) / den ≤ 1 := by
    rw [div_le_one hdenq]
    exact_mod_cast hrest.le
  rw [hquot, abs_le]
  simp only [roundHalfEven]
  split
  · have := hsmall (by omega)
    constructor <;> linarith
  · split
    · have := hlarge (by omega)
      push_cast
      constructor <;> linarith
    · have := hsmall (by omega)
      have := hlarge (by omega)
      split <;> push_cast <;> constructor <;> linarith

namespace Double

/-! ## The exponent of a fraction -/

theorem inUnits_snd_pos (num den : ℕ) (hden : 0 < den) (e : ℤ) : 0 < (inUnits num den e).2 :=
  Nat.mul_pos hden (natPow_pos 2 (by norm_num) _)

theorem inUnits_ratio (num den : ℕ) (e : ℤ) :
    ((inUnits num den e).1 : ℚ) / (inUnits num den e).2 = num / den / 2 ^ e := by
  have hpow := natPow_div_natPow 2 (by norm_num) (-e)
  rw [neg_neg] at hpow
  simp only [inUnits, Nat.cast_mul]
  rw [mul_div_mul_comm, hpow, zpow_neg]
  push_cast
  rw [div_eq_mul_inv _ ((2 : ℚ) ^ e)]

/-- The exponent of a fraction leaves a mantissa of 53 bits, and of fewer bits only if it
is the least exponent. -/
theorem exponentFor_spec (num den : ℕ) (hnum : 0 < num) (hden : 0 < den) :
    -1074 ≤ exponentFor num den ∧
      (num : ℚ) / den < 2 ^ (exponentFor num den + 53) ∧
      (exponentFor num den = -1074 ∨ (2 : ℚ) ^ (exponentFor num den + 52) ≤ num / den) := by
  have htwo : (1 : ℚ) < 2 := by norm_num
  let guess : ℤ := num.log2 - den.log2 - 53
  have hlow : (2 : ℚ) ^ (guess + 52) ≤ num / den := by
    rw [show guess + 52 = (num.log2 : ℤ) - den.log2 - 1 by simp only [guess]; ring]
    exact two_zpow_log2_sub_le hnum hden
  have hhigh : (num : ℚ) / den < 2 ^ (guess + 54) := by
    rw [show guess + 54 = (num.log2 : ℤ) - den.log2 + 1 by simp only [guess]; ring]
    exact lt_two_zpow_log2_sub hden
  have hfits : mantissaLimit ≤ (inUnits num den guess).1 / (inUnits num den guess).2 ↔
      (2 : ℚ) ^ (guess + 53) ≤ num / den := by
    have hunit := inUnits_snd_pos num den hden guess
    have hunitq : (0 : ℚ) < (inUnits num den guess).2 := by exact_mod_cast hunit
    have hpow : (0 : ℚ) < 2 ^ guess := by positivity
    rw [Nat.le_div_iff_mul_le hunit, add_comm guess 53, zpow_add₀ (by norm_num),
      ← le_div_iff₀ hpow, ← inUnits_ratio, le_div_iff₀ hunitq]
    rw [show ((2 : ℚ) ^ (53 : ℤ)) = ((mantissaLimit : ℕ) : ℚ) by norm_num [mantissaLimit]]
    exact_mod_cast Iff.rfl
  have hvalue : exponentFor num den =
      max (-1074) (if (2 : ℚ) ^ (guess + 53) ≤ num / den then guess + 1 else guess) := by
    simp only [exponentFor, ← hfits]
    rfl
  rw [hvalue]
  have hmono : ∀ a b : ℤ, a ≤ b → (2 : ℚ) ^ a ≤ 2 ^ b := fun a b h =>
    zpow_le_zpow_right₀ htwo.le h
  refine ⟨le_max_left _ _, ?_, ?_⟩
  · split
    · exact hhigh.trans_le (hmono _ _ (by have := le_max_right (-1074) (guess + 1); omega))
    · rename_i hsmall
      exact (not_le.mp hsmall).trans_le
        (hmono _ _ (by have := le_max_right (-1074) guess; omega))
  · split
    · rename_i hlarge
      rcases le_total (guess + 1) (-1074) with h | h
      · exact .inl (max_eq_left h)
      · right
        rw [max_eq_right h]
        convert hlarge using 2
        ring
    · rcases le_total guess (-1074) with h | h
      · exact .inl (max_eq_left h)
      · right
        rw [max_eq_right h]
        exact hlow

/-- There is only one such exponent. -/
theorem exponentFor_eq {num den : ℕ} (hnum : 0 < num) (hden : 0 < den) {e : ℤ}
    (hleast : -1074 ≤ e) (hhigh : (num : ℚ) / den < 2 ^ (e + 53))
    (hlow : e = -1074 ∨ (2 : ℚ) ^ (e + 52) ≤ num / den) :
    exponentFor num den = e := by
  obtain ⟨hleast', hhigh', hlow'⟩ := exponentFor_spec num den hnum hden
  have hlt : ∀ a b : ℤ, (2 : ℚ) ^ (a + 52) < 2 ^ (b + 53) → a ≤ b := by
    intro a b h
    have := (zpow_lt_zpow_iff_right₀ (by norm_num : (1 : ℚ) < 2)).mp h
    omega
  apply le_antisymm
  · rcases hlow' with h | h
    · omega
    · exact hlt _ _ (h.trans_lt hhigh)
  · rcases hlow with h | h
    · omega
    · exact hlt _ _ (h.trans_lt hhigh')

/-! ## The fractions that a double attracts -/

/-- How many quarters of a unit below a mantissa its fractions begin: below a power of two
the neighbours are nearer by half. -/
def quartersBelow (mantissa : ℕ) (exponent : ℤ) : ℕ :=
  if mantissa = fullMantissa ∧ -1074 < exponent then 1 else 2

/-- The fractions for which no double is nearer, where a tie goes to an even mantissa. -/
def Attracts (mantissa : ℕ) (exponent : ℤ) (x : ℚ) : Prop :=
  ((4 * mantissa - quartersBelow mantissa exponent : ℚ) * 2 ^ (exponent - 2) ≤ x ∧
      x ≤ (4 * mantissa + 2 : ℚ) * 2 ^ (exponent - 2)) ∧
    (mantissa % 2 = 1 →
      (4 * mantissa - quartersBelow mantissa exponent : ℚ) * 2 ^ (exponent - 2) < x ∧
        x < (4 * mantissa + 2 : ℚ) * 2 ^ (exponent - 2))

theorem quartersBelow_le (m : ℕ) (e : ℤ) : quartersBelow m e ≤ 2 := by
  unfold quartersBelow
  split <;> omega

/-- The fractions that a double attracts, counted in its own unit. -/
theorem Attracts.inUnit {m : ℕ} {e : ℤ} {x : ℚ} (h : Attracts m e x) :
    (m : ℚ) - 1 / 2 ≤ x / 2 ^ e ∧ x / 2 ^ e ≤ m + 1 / 2 ∧
      (m % 2 = 1 → (m : ℚ) - 1 / 2 < x / 2 ^ e ∧ x / 2 ^ e < m + 1 / 2) := by
  have hpow : (0 : ℚ) < 2 ^ e := by positivity
  have hquarter : (2 : ℚ) ^ (e - 2) = 2 ^ e / 4 := by
    rw [zpow_sub₀ (by norm_num)]
    norm_num
  have hbelow : (quartersBelow m e : ℚ) ≤ 2 := by exact_mod_cast quartersBelow_le m e
  obtain ⟨⟨hlow, hhigh⟩, hodd⟩ := h
  rw [hquarter] at hlow hhigh hodd
  rw [le_div_iff₀ hpow, div_le_iff₀ hpow, lt_div_iff₀ hpow, div_lt_iff₀ hpow]
  refine ⟨by nlinarith, by nlinarith, fun h => ?_⟩
  obtain ⟨hl, hh⟩ := hodd h
  exact ⟨by nlinarith, by nlinarith⟩

/-- A mantissa that is not the least with 53 bits attracts nothing below that one. -/
theorem Attracts.fullMantissa_le {m : ℕ} {e : ℤ} {x : ℚ} (h : Attracts m e x)
    (hlt : fullMantissa < m) : (2 : ℚ) ^ (e + 52) ≤ x := by
  have hpow : (0 : ℚ) < 2 ^ e := by positivity
  have hm : (fullMantissa : ℚ) + 1 ≤ m := by exact_mod_cast hlt
  have hlow := h.inUnit.1
  rw [le_div_iff₀ hpow] at hlow
  rw [zpow_add₀ (by norm_num), mul_comm]
  have hfull : ((2 : ℚ) ^ (52 : ℤ)) = fullMantissa := by norm_num [fullMantissa]
  rw [hfull]
  nlinarith

theorem Attracts.lt_limit {m : ℕ} {e : ℤ} {x : ℚ} (h : Attracts m e x)
    (hm : m < mantissaLimit) : x < 2 ^ (e + 53) := by
  have hpow : (0 : ℚ) < 2 ^ e := by positivity
  have hmq : (m : ℚ) + 1 ≤ mantissaLimit := by exact_mod_cast hm
  have hhigh := h.inUnit.2.1
  rw [div_le_iff₀ hpow] at hhigh
  rw [zpow_add₀ (by norm_num), mul_comm]
  have hlimit : ((2 : ℚ) ^ (53 : ℤ)) = mantissaLimit := by norm_num [mantissaLimit]
  rw [hlimit]
  nlinarith

theorem Attracts.pos {m : ℕ} {e : ℤ} {x : ℚ} (h : Attracts m e x) (hm : 0 < m) : 0 < x := by
  have hpow : (0 : ℚ) < 2 ^ e := by positivity
  have hmq : (1 : ℚ) ≤ m := by exact_mod_cast hm
  have hlow := h.inUnit.1
  rw [le_div_iff₀ hpow] at hlow
  nlinarith

/-- The mantissa of a fraction at the exponent of the double that attracts it. -/
theorem Attracts.roundHalfEven_inUnits {num den m : ℕ} {e : ℤ} (hden : 0 < den)
    (h : Attracts m e (num / den)) :
    roundHalfEven (inUnits num den e).1 (inUnits num den e).2 = m := by
  obtain ⟨hlow, hhigh, hodd⟩ := h.inUnit
  rw [← inUnits_ratio] at hlow hhigh hodd
  exact roundHalfEven_eq_of_near (inUnits_snd_pos num den hden e) hlow hhigh hodd

/-- Just below a power of two the fractions are counted in half the unit, and rounding
carries them up to the power. -/
theorem Attracts.roundHalfEven_below {num den : ℕ} {e : ℤ} (hden : 0 < den)
    (h : Attracts fullMantissa e (num / den)) (he : -1074 < e)
    (hbelow : (num : ℚ) / den < 2 ^ (e + 52)) :
    roundHalfEven (inUnits num den (e - 1)).1 (inUnits num den (e - 1)).2 = mantissaLimit := by
  have hpow : (0 : ℚ) < 2 ^ e := by positivity
  have hhalf : (2 : ℚ) ^ (e - 1) = 2 ^ e / 2 := by rw [zpow_sub_one₀ (by norm_num)]; rfl
  have hquarter : (2 : ℚ) ^ (e - 2) = 2 ^ e / 4 := by
    rw [zpow_sub₀ (by norm_num)]
    norm_num
  have hlow := h.1.1
  simp only [quartersBelow, he, and_self, if_true, hquarter] at hlow
  rw [zpow_add₀ (by norm_num)] at hbelow
  norm_num [fullMantissa] at hlow hbelow
  apply roundHalfEven_eq_of_near (inUnits_snd_pos num den hden (e - 1))
  · rw [inUnits_ratio, hhalf, le_div_iff₀ (by positivity)]
    norm_num [mantissaLimit]
    linarith
  · rw [inUnits_ratio, hhalf, div_le_iff₀ (by positivity)]
    norm_num [mantissaLimit]
    linarith
  · intro hodd
    norm_num [mantissaLimit] at hodd

/-- Every fraction that a double attracts is read as that double. -/
theorem ofRatio_of_attracts (negative : Bool) {num den m : ℕ} {e : ℤ} (hden : 0 < den)
    (hm : 0 < m) (hcanonical : Canonical m e) (h : Attracts m e (num / den)) :
    ofRatio negative num den = .finite negative m e hcanonical := by
  obtain ⟨hlimit, hleast, hmost, hfull⟩ := hcanonical
  have hnum : num ≠ 0 := by
    rintro rfl
    simpa using h.pos hm
  have hpack : ∀ (m' : ℕ) (e' : ℤ) (heq : m' = m ∧ e' = e), pack negative m' e' =
      .finite negative m e ⟨hlimit, hleast, hmost, hfull⟩ := by
    rintro m' e' ⟨rfl, rfl⟩
    exact dif_pos _
  unfold ofRatio
  rw [if_neg hnum]
  by_cases hbelow : m = fullMantissa ∧ -1074 < e ∧ (num : ℚ) / den < 2 ^ (e + 52)
  · obtain ⟨rfl, he, hlt⟩ := hbelow
    have hexponent : exponentFor num den = e - 1 := by
      apply exponentFor_eq (Nat.pos_of_ne_zero hnum) hden (by omega)
      · convert hlt using 2
        ring
      · right
        have hpow : (0 : ℚ) < 2 ^ e := by positivity
        have hlow := h.inUnit.1
        rw [le_div_iff₀ hpow] at hlow
        rw [show e - 1 + 52 = e + 51 by ring, zpow_add₀ (by norm_num)]
        norm_num [fullMantissa] at hlow ⊢
        linarith
    have hround := h.roundHalfEven_below hden he hlt
    simp only [hexponent, hround, if_true]
    exact hpack _ _ ⟨rfl, by ring⟩
  · have hexponent : exponentFor num den = e := by
      apply exponentFor_eq (Nat.pos_of_ne_zero hnum) hden hleast (h.lt_limit hlimit)
      rcases hfull with hfull | rfl
      · rcases hfull.lt_or_eq with hlt | heq
        · exact .inr (h.fullMantissa_le hlt)
        · by_cases he : -1074 < e
          · right
            by_contra hlt
            exact hbelow ⟨heq.symm, he, not_le.mp hlt⟩
          · left
            omega
      · exact .inl rfl
    have hround := h.roundHalfEven_inUnits hden
    simp only [hexponent, hround, hlimit.ne, if_false]
    exact hpack _ _ ⟨rfl, rfl⟩

/-! ## Reading decimals -/

theorem lt_ten_pow_length (n : ℕ) : n < 10 ^ (Nat.toDigits 10 n).length :=
  (Nat.length_toDigits_le_iff (by norm_num) Nat.length_toDigits_pos).mp le_rfl

theorem ten_pow_le_of_pos {n : ℕ} (h : 0 < n) : 10 ^ ((Nat.toDigits 10 n).length - 1) ≤ n := by
  rcases Nat.eq_zero_or_pos ((Nat.toDigits 10 n).length - 1) with hzero | hpos
  · rw [hzero]
    exact h
  · by_contra hlt
    have := (Nat.length_toDigits_le_iff (by norm_num) hpos).mpr (not_le.mp hlt)
    omega

/-- No double attracts anything near the ends of the range in which decimals are computed. -/
theorem Attracts.bounds {m : ℕ} {e : ℤ} {x : ℚ} (hm : 0 < m) (hcanonical : Canonical m e)
    (h : Attracts m e x) : (2 : ℚ) ^ (-1075 : ℤ) ≤ x ∧ x < 2 ^ (1024 : ℤ) := by
  obtain ⟨hlimit, hleast, hmost, -⟩ := hcanonical
  have hpow : (0 : ℚ) < 2 ^ e := by positivity
  have hmq : (1 : ℚ) ≤ m := by exact_mod_cast hm
  constructor
  · have hlow := h.inUnit.1
    rw [le_div_iff₀ hpow] at hlow
    calc (2 : ℚ) ^ (-1075 : ℤ) ≤ 2 ^ (e - 1) := zpow_le_zpow_right₀ (by norm_num) (by omega)
      _ = 2 ^ e / 2 := by rw [zpow_sub_one₀ (by norm_num)]; rfl
      _ ≤ (m - 1 / 2) * 2 ^ e := by nlinarith
      _ ≤ x := hlow
  · exact (h.lt_limit hlimit).trans_le (zpow_le_zpow_right₀ (by norm_num) (by omega))

/-- Every decimal that a double attracts is read as that double. -/
theorem ofDecimal_of_attracts (negative : Bool) {count m : ℕ} {exponent e : ℤ} (hm : 0 < m)
    (hcanonical : Canonical m e) (h : Attracts m e (count * 10 ^ exponent)) :
    ofDecimal negative count exponent = .finite negative m e hcanonical := by
  obtain ⟨hlow, hhigh⟩ := h.bounds hm hcanonical
  have hten : (0 : ℚ) < 10 ^ exponent := by positivity
  have hcount : 0 < count := by
    rw [Nat.pos_iff_ne_zero]
    rintro rfl
    simpa using h.pos hm
  have hlarge : (2 : ℚ) ^ (1024 : ℤ) ≤ 10 ^ (400 : ℤ) := by
    have hstep := zpow_le_zpow_of_pow_le (by decide +kernel : 2 ^ 1024 ≤ 10 ^ 400)
    simpa only [Nat.cast_ofNat] using hstep
  have hsmall : (10 : ℚ) ^ (-400 : ℤ) ≤ 2 ^ (-1075 : ℤ) := by
    have hstep := zpow_le_zpow_of_pow_le (by decide +kernel : 2 ^ 1075 ≤ 10 ^ 400)
    simp only [Nat.cast_ofNat] at hstep
    rw [zpow_neg, zpow_neg]
    exact inv_anti₀ (by positivity) hstep
  generalize hlength : (Nat.toDigits 10 count).length = length
  have habove : -400 ≤ exponent + length := by
    have hlt : (count : ℚ) < 10 ^ (length : ℤ) := by
      rw [← hlength]
      exact_mod_cast lt_ten_pow_length count
    have hchain : (10 : ℚ) ^ (-400 : ℤ) < 10 ^ (exponent + length) :=
      calc (10 : ℚ) ^ (-400 : ℤ) ≤ count * 10 ^ exponent := hsmall.trans hlow
        _ < 10 ^ (length : ℤ) * 10 ^ exponent := by gcongr
        _ = 10 ^ (exponent + length) := by rw [← zpow_add₀ (by norm_num), add_comm]
    exact ((zpow_lt_zpow_iff_right₀ (by norm_num)).mp hchain).le
  have hbelow : exponent + length ≤ 400 := by
    have hpos : 0 < length := by rw [← hlength]; exact Nat.length_toDigits_pos
    have hle : (10 : ℚ) ^ ((length : ℤ) - 1) ≤ count := by
      have := ten_pow_le_of_pos hcount
      rw [hlength] at this
      rw [show (length : ℤ) - 1 = ((length - 1 : ℕ) : ℤ) by omega, zpow_natCast]
      exact_mod_cast this
    have hchain : (10 : ℚ) ^ (exponent + length - 1) < 10 ^ (400 : ℤ) :=
      calc (10 : ℚ) ^ (exponent + length - 1) = 10 ^ ((length : ℤ) - 1) * 10 ^ exponent := by
            rw [← zpow_add₀ (by norm_num),
              show (length : ℤ) - 1 + exponent = exponent + length - 1 by ring]
        _ ≤ count * 10 ^ exponent := by gcongr
        _ < 10 ^ (400 : ℤ) := hhigh.trans_le hlarge
    have := (zpow_lt_zpow_iff_right₀ (by norm_num)).mp hchain
    omega
  have hratio : ((count * Nat.pow 10 exponent.toNat : ℕ) : ℚ) / (Nat.pow 10 (-exponent).toNat : ℕ)
      = count * 10 ^ exponent := by
    have hpow := natPow_div_natPow 10 (by norm_num) exponent
    rw [Nat.cast_mul, mul_div_assoc, hpow]
    norm_num
  unfold ofDecimal
  simp only [hlength]
  rw [if_neg, if_neg (by omega)]
  · exact ofRatio_of_attracts negative (natPow_pos 10 (by norm_num) _) hm hcanonical
      (by rw [hratio]; exact h)
  · simp only [Bool.or_eq_true, decide_eq_true_eq]
    omega

end Double

end CaseWorkflow
