import CaseWorkflow.Proofs.Number.Shortest
import CaseWorkflow.Text.Digit

/-!
# Rows of digits

What a row of decimal digits spells, for the rows that counts and doubles are written
with.
-/

namespace CaseWorkflow

namespace Text

theorem ofDigits_append (a b : List Char) :
    ofDigits (a ++ b) = ofDigits a * 10 ^ b.length + ofDigits b := by
  induction b using List.reverseRecOn with
  | nil => simp
  | append_singleton b c ih =>
      rw [← List.append_assoc, ofDigits_append_singleton, ih, ofDigits_append_singleton,
        List.length_append, List.length_singleton, pow_succ]
      ring

@[simp] theorem ofDigits_replicate_zero (n : ℕ) : ofDigits (List.replicate n '0') = 0 := by
  induction n with
  | zero => rfl
  | succ n ih =>
      rw [List.replicate_succ', ofDigits_append_singleton, ih]
      rfl

theorem ofDigits_toDigits (n : ℕ) : ofDigits (Nat.toDigits 10 n) = n := by
  have h := Nat.ofDigitChars_ten_toDigits (n := n)
  rw [Nat.ofDigitChars_eq_foldl] at h
  simp only [ofDigits, Nat.mul_comm _ 10]
  exact h

theorem ofDigits_lt {cs : List Char} (h : ∀ c ∈ cs, c.isDigit = true) :
    ofDigits cs < 10 ^ cs.length := by
  induction cs using List.reverseRecOn with
  | nil => exact Nat.one_pos
  | append_singleton cs c ih =>
      have hrest := ih fun d hd => h d (List.mem_append_left _ hd)
      have hnine : c.toNat ≤ 0x39 := (Char.isDigit_iff_toNat.mp (h c (by simp))).2
      rw [ofDigits_append_singleton, List.length_append, List.length_singleton, pow_succ]
      omega

end Text

theorem Double.natAbs_signed (negative : Bool) (magnitude : ℕ) :
    (Double.signed negative magnitude).natAbs = magnitude := by
  unfold Double.signed
  split <;> simp

theorem toDigits_isDigit {n : ℕ} {c : Char} (h : c ∈ Nat.toDigits 10 n) : c.isDigit = true :=
  Nat.isDigit_of_mem_toDigits (by norm_num) (by norm_num) h

theorem toNat_lt_of_isDigit {c : Char} (h : c.isDigit = true) : c.toNat < 0x80 :=
  lt_of_le_of_lt (Char.isDigit_iff_toNat.mp h).2 (by decide)

/-- Texts that end in numbers differ when the numbers do. -/
theorem append_repr_injective {word : String} {a b : ℕ} (h : word ++ a.repr = word ++ b.repr) :
    a = b := by
  have hlists := congrArg String.toList h
  rw [String.toList_append, String.toList_append, Nat.toList_repr, Nat.toList_repr] at hlists
  have hdigits := List.append_cancel_left hlists
  rw [← Text.ofDigits_toDigits a, hdigits, Text.ofDigits_toDigits]

/-- Only zero is written with a zero first. -/
theorem head?_toDigits {n : ℕ} (h : 0 < n) : (Nat.toDigits 10 n).head? ≠ some '0' := by
  induction n using Nat.strongRecOn with
  | ind n ih =>
      rcases Nat.lt_or_ge n 10 with hlt | hge
      · rw [Nat.toDigits_of_lt_base hlt]
        interval_cases n <;> decide
      · rw [Nat.toDigits_of_base_le (by norm_num) hge,
          List.head?_append_of_ne_nil _ Nat.toDigits_ne_nil]
        exact ih (n / 10) (Nat.div_lt_self h (by norm_num)) (Nat.div_pos hge (by norm_num))

namespace Decimal

/-- A row that has digits and does not begin with a zero. -/
structure Proper (d : Decimal) : Prop where
  digits_ne_nil : d.digits ≠ []
  head_ne_zero : d.digits.head? ≠ some '0'
  isDigit : ∀ c ∈ d.digits, c.isDigit = true

/-- The number that a row of digits with its point spells. -/
def value (d : Decimal) : ℚ :=
  Text.ofDigits d.digits * 10 ^ (d.point - d.digits.length)

/-- The digits of a count are those of its decimal followed by zeros. -/
theorem toDigits_eq_digits_append {count : ℕ} (hcount : 0 < count) (exponent : ℤ) :
    ∃ zeros, Nat.toDigits 10 count
      = (ofCount count exponent).digits ++ List.replicate zeros '0' := by
  have hsplit := List.takeWhile_append_dropWhile (p := (· == '0'))
    (l := (Nat.toDigits 10 count).reverse)
  have hzeros : (Nat.toDigits 10 count).reverse.takeWhile (· == '0') =
      List.replicate ((Nat.toDigits 10 count).reverse.takeWhile (· == '0')).length '0' := by
    apply List.eq_replicate_of_mem
    intro c hc
    simpa using List.all_eq_true.mp List.all_takeWhile c hc
  refine ⟨((Nat.toDigits 10 count).reverse.takeWhile (· == '0')).length, ?_⟩
  have hreverse := congrArg List.reverse hsplit
  rw [List.reverse_append, List.reverse_reverse, hzeros, List.reverse_replicate] at hreverse
  rw [ofCount, if_neg hcount.ne']
  exact hreverse.symm

theorem proper_ofCount {count : ℕ} (hcount : 0 < count) (exponent : ℤ) :
    (ofCount count exponent).Proper := by
  obtain ⟨zeros, heq⟩ := toDigits_eq_digits_append hcount exponent
  have hne : (ofCount count exponent).digits ≠ [] := by
    intro hnil
    rw [hnil, List.nil_append] at heq
    have hhead := head?_toDigits hcount
    cases zeros with
    | zero => exact Nat.toDigits_ne_nil heq
    | succ zeros =>
        rw [heq] at hhead
        exact hhead rfl
  refine ⟨hne, ?_, ?_⟩
  · have hhead := head?_toDigits hcount
    rw [heq, List.head?_append_of_ne_nil _ hne] at hhead
    exact hhead
  · intro c hc
    apply toDigits_isDigit (n := count)
    rw [heq]
    exact List.mem_append_left _ hc

theorem value_ofCount {count : ℕ} (hcount : 0 < count) (exponent : ℤ) :
    (ofCount count exponent).value = count * 10 ^ exponent := by
  obtain ⟨zeros, heq⟩ := toDigits_eq_digits_append hcount exponent
  have hspelled := congrArg Text.ofDigits heq
  rw [Text.ofDigits_toDigits, Text.ofDigits_append, Text.ofDigits_replicate_zero,
    List.length_replicate, Nat.add_zero] at hspelled
  have hlength := congrArg List.length heq
  rw [List.length_append, List.length_replicate] at hlength
  have hpoint : (ofCount count exponent).point
      = (Nat.toDigits 10 count).length + exponent := by
    rw [ofCount, if_neg hcount.ne']
  rw [value, hpoint, hlength]
  conv_rhs => rw [hspelled]
  push_cast
  rw [mul_assoc, ← zpow_natCast, ← zpow_add₀ (by norm_num)]
  congr 2
  ring

end Decimal

end CaseWorkflow
