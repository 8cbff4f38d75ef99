import CaseWorkflow.Json.Reader
import CaseWorkflow.Json.Writer
import CaseWorkflow.Proofs.Number.Digits

/-!
# Numbers in JSON texts

What is written for an integer or a double is read as the same number, whatever stands
after it, as long as that cannot go on a number.
-/

namespace CaseWorkflow.Json

/-- The text that follows a number, which none of its characters can go on. -/
def EndsNumber (rest : List Char) : Prop :=
  ∀ c ∈ rest.head?, c.isDigit = false ∧ c ≠ '.' ∧ c ≠ 'e' ∧ c ≠ 'E'

theorem EndsNumber.nil : EndsNumber [] := by
  intro c hc
  simp at hc

theorem EndsNumber.cons {c : Char} (rest : List Char)
    (h : c.isDigit = false ∧ c ≠ '.' ∧ c ≠ 'e' ∧ c ≠ 'E') : EndsNumber (c :: rest) := by
  intro d hd
  obtain rfl : c = d := by simpa using hd
  exact h

section Span

variable {α : Type} {p : α → Bool} {l rest : List α}

theorem takeWhile_append_stop (hall : ∀ a ∈ l, p a = true)
    (hstop : ∀ a ∈ rest.head?, p a = false) : (l ++ rest).takeWhile p = l := by
  rw [List.takeWhile_append_of_pos hall]
  cases rest with
  | nil => simp
  | cons a rest => simp [hstop a (by simp)]

theorem dropWhile_append_stop (hall : ∀ a ∈ l, p a = true)
    (hstop : ∀ a ∈ rest.head?, p a = false) : (l ++ rest).dropWhile p = rest := by
  rw [List.dropWhile_append_of_pos hall]
  cases rest with
  | nil => simp
  | cons a rest => simp [hstop a (by simp)]

end Span

/-! ## The parts of a number -/

/-- The digits before the point: a zero alone, or digits that do not begin with one. -/
structure Whole (digits : List Char) : Prop where
  ne_nil : digits ≠ []
  isDigit : ∀ c ∈ digits, c.isDigit = true
  zero : digits.head? = some '0' → digits = ['0']

theorem Whole.singleZero : Whole ['0'] := ⟨by simp, by simp, fun _ => rfl⟩

/-- The sign of a negative number. -/
def signChars (negative : Bool) : List Char := if negative then ['-'] else []

/-- The point with the places after it, if there are any. -/
def dotted (fraction : List Char) : List Char :=
  if fraction.isEmpty then [] else '.' :: fraction

theorem wholeDigits?_append {whole rest : List Char} (h : Whole whole)
    (hstop : ∀ c ∈ rest.head?, c.isDigit = false) :
    wholeDigits? (whole ++ rest) = some (whole, rest) := by
  obtain ⟨c, more, rfl⟩ := List.exists_cons_of_ne_nil h.ne_nil
  by_cases hzero : c = '0'
  · subst hzero
    have hsingle := h.zero rfl
    rw [hsingle]
    rfl
  · have htake := takeWhile_append_stop h.isDigit hstop
    have hdrop := dropWhile_append_stop h.isDigit hstop
    rw [wholeDigits?, htake, hdrop]
    · simp
    · intro after heq
      simp only [List.cons_append, List.cons.injEq] at heq
      exact hzero heq.1

theorem places_dotted {fraction rest : List Char} (hall : ∀ c ∈ fraction, c.isDigit = true)
    (hstop : ∀ c ∈ rest.head?, c.isDigit = false ∧ c ≠ '.') :
    places (dotted fraction ++ rest) = (fraction, rest) := by
  have hdigit : ∀ c ∈ rest.head?, c.isDigit = false := fun c hc => (hstop c hc).1
  unfold dotted
  split
  next hempty =>
    rw [List.isEmpty_iff] at hempty
    subst hempty
    rw [List.nil_append, places]
    rintro after rfl
    exact (hstop '.' (by simp)).2 rfl
  next hne =>
    rw [List.cons_append, places]
    simp only [takeWhile_append_stop hall hdigit, dropWhile_append_stop hall hdigit, hne,
      Bool.false_eq_true, if_false]

/-- The head of what is left after the places cannot go on the number. -/
theorem head?_dotted_append (fraction : List Char) {rest : List Char} {p : Char → Prop}
    (hrest : ∀ c ∈ rest.head?, p c) (hpoint : p '.') :
    ∀ c ∈ (dotted fraction ++ rest).head?, p c := by
  intro c hc
  unfold dotted at hc
  split at hc
  · exact hrest c hc
  · obtain rfl : '.' = c := by simpa using hc
    exact hpoint

theorem splitMinus_append {whole rest : List Char} (h : Whole whole) (negative : Bool) :
    splitMinus (signChars negative ++ (whole ++ rest)) = (negative, whole ++ rest) := by
  cases negative with
  | true => rfl
  | false =>
      obtain ⟨c, more, rfl⟩ := List.exists_cons_of_ne_nil h.ne_nil
      have hdigit := h.isDigit c (by simp)
      rw [show signChars false = [] from rfl, List.nil_append, List.cons_append, splitMinus]
      rintro after heq
      obtain ⟨rfl, -⟩ := List.cons.inj heq
      simp at hdigit

/-! ## Integers -/

theorem power?_eq_none {rest : List Char} (h : EndsNumber rest) : power? rest = none := by
  cases rest with
  | nil => rfl
  | cons c rest =>
      obtain ⟨-, -, he, hE⟩ := h c (by simp)
      simp [power?, he, hE]

theorem readNumber_whole {whole rest : List Char} (h : Whole whole) (negative : Bool)
    (hrest : EndsNumber rest) :
    readNumber (signChars negative ++ (whole ++ rest)) =
      if NumberText.digitLimit < whole.length then
        .error (.number (.tooManyDigits whole.length))
      else .ok (.int (Double.signed negative (Text.ofDigits whole)), rest) := by
  have hplaces := @places_dotted [] rest (by simp)
    (fun c hc => ⟨(hrest c hc).1, (hrest c hc).2.1⟩)
  rw [show dotted [] ++ rest = rest from rfl] at hplaces
  simp only [readNumber, splitMinus_append h, wholeDigits?_append h (fun c hc => (hrest c hc).1),
    hplaces, power?_eq_none hrest, List.isEmpty_nil, if_true]

theorem whole_toDigits (n : ℕ) : Whole (Nat.toDigits 10 n) := by
  refine ⟨Nat.toDigits_ne_nil, fun c hc => toDigits_isDigit hc, fun hhead => ?_⟩
  rcases Nat.eq_zero_or_pos n with rfl | hpos
  · rfl
  · exact absurd hhead (head?_toDigits hpos)

theorem toList_toString_int (i : ℤ) :
    (toString i).toList = signChars (decide (i < 0)) ++ Nat.toDigits 10 i.natAbs := by
  cases i with
  | ofNat n =>
      have hneg : ¬(Int.ofNat n < 0) := by simp
      rw [decide_eq_false hneg]
      exact Nat.toList_repr
  | negSucc n =>
      have hneg : Int.negSucc n < 0 := Int.negSucc_lt_zero n
      rw [decide_eq_true hneg]
      change ("-" ++ (n + 1).repr).toList = _
      rw [String.toList_append, Nat.toList_repr]
      rfl

/-- Whether an integer has no more digits than are read. -/
def Legible (i : ℤ) : Prop := i.natAbs < 10 ^ NumberText.digitLimit

theorem legible_iff (i : ℤ) :
    Legible i ↔ ¬NumberText.digitLimit < (Nat.toDigits 10 i.natAbs).length := by
  rw [not_lt, Nat.length_toDigits_le_iff (by norm_num) (by decide)]
  rfl

theorem readNumber_int (i : ℤ) {rest : List Char} (hrest : EndsNumber rest) :
    (Legible i → readNumber ((toString i).toList ++ rest) = .ok (.int i, rest)) ∧
      (¬Legible i → ∃ failure, readNumber ((toString i).toList ++ rest) = .error failure) := by
  have hread := readNumber_whole (whole_toDigits i.natAbs) (decide (i < 0)) hrest
  rw [← List.append_assoc, ← toList_toString_int, Text.ofDigits_toDigits] at hread
  rw [legible_iff, hread]
  refine ⟨fun h => ?_, fun h => ?_⟩
  · rw [if_neg h]
    congr 3
    by_cases hneg : i < 0
    · rw [decide_eq_true hneg]
      simp only [Double.signed, if_true]
      omega
    · rw [decide_eq_false hneg]
      simp only [Double.signed, Bool.false_eq_true, if_false]
      omega
  · rw [not_not] at h
    rw [if_pos h]
    exact ⟨_, rfl⟩

/-! ## Doubles -/

/-- A number with places after its point. -/
theorem readNumber_places {whole fraction rest : List Char} (h : Whole whole)
    (hfraction : ∀ c ∈ fraction, c.isDigit = true) (hne : fraction ≠ []) (negative : Bool)
    (hrest : EndsNumber rest) :
    readNumber (signChars negative ++ (whole ++ (dotted fraction ++ rest))) =
      .ok (.float (Double.ofDecimal negative (Text.ofDigits (whole ++ fraction))
        (-(fraction.length : ℤ))), rest) := by
  have hstop := head?_dotted_append fraction (fun c hc => (hrest c hc).1) rfl
  have hplaces := places_dotted hfraction (fun c hc => ⟨(hrest c hc).1, (hrest c hc).2.1⟩)
  simp only [readNumber, splitMinus_append h, wholeDigits?_append h hstop, hplaces,
    power?_eq_none hrest, List.isEmpty_iff, hne, if_false]

/-- The sign of a power of ten. -/
def powerSign (power : ℤ) : Char := if power < 0 then '-' else '+'

theorem power?_append (power : ℤ) {digits rest : List Char} (hne : digits ≠ [])
    (hdigits : ∀ c ∈ digits, c.isDigit = true) (hrest : ∀ c ∈ rest.head?, c.isDigit = false) :
    power? ('e' :: powerSign power :: (digits ++ rest)) =
      some (Double.signed (power < 0) (Text.ofDigits digits), rest) := by
  have htake := takeWhile_append_stop hdigits hrest
  have hdrop := dropWhile_append_stop hdigits hrest
  unfold powerSign
  by_cases hneg : power < 0
  · simp [power?, NumberText.sign, hneg, htake, hdrop, hne]
  · simp [power?, NumberText.sign, hneg, htake, hdrop, hne]

/-- A number with a power of ten. -/
theorem readNumber_power {whole fraction digits rest : List Char} (power : ℤ) (h : Whole whole)
    (hfraction : ∀ c ∈ fraction, c.isDigit = true) (hne : digits ≠ [])
    (hdigits : ∀ c ∈ digits, c.isDigit = true) (negative : Bool)
    (hrest : ∀ c ∈ rest.head?, c.isDigit = false) :
    readNumber (signChars negative ++ (whole ++ (dotted fraction ++
        'e' :: powerSign power :: (digits ++ rest)))) =
      .ok (.float (Double.ofDecimal negative (Text.ofDigits (whole ++ fraction))
        (Double.signed (power < 0) (Text.ofDigits digits) - fraction.length)), rest) := by
  generalize hafter : 'e' :: powerSign power :: (digits ++ rest) = after
  have hhead : ∀ c ∈ after.head?, c.isDigit = false ∧ c ≠ '.' := by
    rw [← hafter]
    intro c hc
    obtain rfl : 'e' = c := by simpa using hc
    decide
  have hstop := head?_dotted_append fraction (fun c hc => (hhead c hc).1) rfl
  have hpower := power?_append power hne hdigits hrest
  rw [hafter] at hpower
  simp only [readNumber, splitMinus_append h, wholeDigits?_append h hstop,
    places_dotted hfraction hhead, hpower]

end CaseWorkflow.Json

namespace CaseWorkflow.Decimal

open Json

/-- The digits before the point of a positional text. -/
def wholeOf (d : Decimal) : List Char :=
  if d.point.toNat = 0 then ['0'] else (d.digits.take d.point.toNat).rightpad d.point.toNat '0'

/-- The digits after the point of a positional text. -/
def fractionOf (d : Decimal) (places : ℕ) : List Char :=
  (List.replicate (-d.point).toNat '0' ++ d.digits.drop d.point.toNat).rightpad places '0'

theorem positional_eq (d : Decimal) (places : ℕ) :
    d.positional places false = wholeOf d ++ dotted (fractionOf d places) := by
  unfold positional wholeOf fractionOf dotted
  simp only [Bool.not_false, Bool.and_true]

theorem whole_wholeOf {d : Decimal} (h : d.Proper) : Whole (wholeOf d) := by
  unfold wholeOf
  split
  next => exact Whole.singleZero
  next hpoint =>
    obtain ⟨c, more, heq⟩ := List.exists_cons_of_ne_nil h.digits_ne_nil
    obtain ⟨n, hn⟩ := Nat.exists_eq_succ_of_ne_zero hpoint
    have htake : d.digits.take d.point.toNat = c :: more.take n := by rw [heq, hn]; rfl
    rw [htake, List.rightpad]
    refine ⟨by simp, ?_, ?_⟩
    · intro x hx
      rcases List.mem_append.mp hx with hx | hx
      · apply h.isDigit
        rw [← htake] at hx
        exact List.mem_of_mem_take hx
      · rw [List.eq_of_mem_replicate hx]
        rfl
    · intro hzero
      refine absurd ?_ h.head_ne_zero
      rw [heq]
      exact hzero

theorem isDigit_fractionOf {d : Decimal} (h : d.Proper) (places : ℕ) :
    ∀ c ∈ fractionOf d places, c.isDigit = true := by
  intro c hc
  unfold fractionOf List.rightpad at hc
  simp only [List.mem_append, List.mem_replicate] at hc
  rcases hc with (⟨-, rfl⟩ | hc) | ⟨-, rfl⟩
  · rfl
  · exact h.isDigit c (List.mem_of_mem_drop hc)
  · rfl

/-- A positional text spells the number of its decimal. -/
theorem value_positional {d : Decimal} (h : d.Proper) (places : ℕ) :
    (Text.ofDigits (wholeOf d ++ fractionOf d places) : ℚ) *
      10 ^ (-((fractionOf d places).length : ℤ)) = d.value := by
  have hlength : 0 < d.digits.length := List.length_pos_iff.mpr h.digits_ne_nil
  generalize hpad : places - (List.replicate (-d.point).toNat '0'
    ++ d.digits.drop d.point.toNat).length = pad
  have hfraction : fractionOf d places = List.replicate (-d.point).toNat '0'
      ++ d.digits.drop d.point.toNat ++ List.replicate pad '0' := by
    rw [fractionOf, List.rightpad, hpad]
  have htake := Text.ofDigits_append (d.digits.take d.point.toNat) (d.digits.drop d.point.toNat)
  rw [List.take_append_drop] at htake
  have hwhole : Text.ofDigits (wholeOf d) = Text.ofDigits (d.digits.take d.point.toNat)
      * 10 ^ (d.point.toNat - d.digits.length) := by
    unfold wholeOf
    split
    next hzero =>
      rw [hzero, List.take_zero, Text.ofDigits_nil, Nat.zero_mul]
      rfl
    next =>
      rw [List.rightpad, Text.ofDigits_append, Text.ofDigits_replicate_zero, Nat.add_zero,
        List.length_replicate, List.length_take]
      congr 2
      omega
  have hdrop : d.digits.length ≤ d.point.toNat →
      Text.ofDigits (d.digits.drop d.point.toNat) = 0 := by
    intro hle
    rw [List.drop_of_length_le hle]
    rfl
  have hspelled : Text.ofDigits (wholeOf d ++ fractionOf d places) = Text.ofDigits d.digits
      * 10 ^ ((d.point.toNat - d.digits.length) + pad) := by
    rw [hfraction, ← List.append_assoc, ← List.append_assoc, Text.ofDigits_append,
      Text.ofDigits_append, Text.ofDigits_append, Text.ofDigits_replicate_zero,
      Text.ofDigits_replicate_zero, hwhole, List.length_replicate, List.length_replicate,
      List.length_drop, htake, Nat.add_zero, Nat.add_zero, List.length_drop]
    rcases le_total d.digits.length d.point.toNat with hle | hle
    · rw [hdrop hle, show d.digits.length - d.point.toNat = 0 by omega,
        show (-d.point).toNat = 0 by omega]
      ring
    · rw [show d.point.toNat - d.digits.length = 0 by omega]
      rcases Nat.eq_zero_or_pos d.point.toNat with hzero | hpos
      · rw [hzero]
        simp
      · rw [show (-d.point).toNat = 0 by omega]
        ring
  rw [hspelled, value, Nat.cast_mul, Nat.cast_pow, Nat.cast_ofNat, mul_assoc, ← zpow_natCast,
    ← zpow_add₀ (by norm_num), hfraction]
  simp only [List.length_append, List.length_replicate, List.length_drop]
  congr 2
  omega

/-- The power of ten of a scientific text. -/
def powerDigits (d : Decimal) : List Char :=
  (Nat.toDigits 10 (d.point - 1).natAbs).leftpad 2 '0'

theorem scientific_eq (d : Decimal) :
    d.scientific 0 false 'e' = wholeOf ⟨d.digits, 1⟩ ++ dotted (fractionOf ⟨d.digits, 1⟩ 0)
      ++ 'e' :: powerSign (d.point - 1) :: powerDigits d := by
  unfold scientific powerSign powerDigits
  rw [positional_eq]

theorem powerDigits_ne_nil (d : Decimal) : powerDigits d ≠ [] := by
  unfold powerDigits List.leftpad
  simp

theorem isDigit_powerDigits (d : Decimal) : ∀ c ∈ powerDigits d, c.isDigit = true := by
  intro c hc
  unfold powerDigits List.leftpad at hc
  rcases List.mem_append.mp hc with hc | hc
  · rw [List.eq_of_mem_replicate hc]
    rfl
  · exact toDigits_isDigit hc

theorem signed_powerDigits (d : Decimal) :
    Double.signed (d.point - 1 < 0) (Text.ofDigits (powerDigits d)) = d.point - 1 := by
  rw [powerDigits, List.leftpad, Text.ofDigits_append, Text.ofDigits_replicate_zero,
    Text.ofDigits_toDigits, Nat.zero_mul, Nat.zero_add]
  by_cases hneg : d.point - 1 < 0
  · rw [decide_eq_true hneg]
    simp only [Double.signed, if_true]
    omega
  · rw [decide_eq_false hneg]
    simp only [Double.signed, Bool.false_eq_true, if_false]
    omega

/-- The texts of a decimal are read as the number that it spells. -/
theorem readNumber_layout {d : Decimal} (h : d.Proper) (negative : Bool) {rest : List Char}
    (hrest : EndsNumber rest) :
    ∃ (count : ℕ) (exponent : ℤ), (count : ℚ) * 10 ^ exponent = d.value ∧
      readNumber (signChars negative ++ ((if -4 < d.point ∧ d.point ≤ 16 then d.positional 1 false
        else d.scientific 0 false 'e') ++ rest))
          = .ok (.float (Double.ofDecimal negative count exponent), rest) := by
  split
  · have hne : fractionOf d 1 ≠ [] := by
      rw [fractionOf, ← List.length_pos_iff, List.length_rightpad]
      omega
    refine ⟨_, _, value_positional h 1, ?_⟩
    rw [positional_eq, List.append_assoc]
    exact readNumber_places (whole_wholeOf h) (isDigit_fractionOf h 1) hne negative hrest
  · have hshifted : Proper ⟨d.digits, 1⟩ := ⟨h.digits_ne_nil, h.head_ne_zero, h.isDigit⟩
    have hread := readNumber_power (d.point - 1) (whole_wholeOf hshifted)
      (isDigit_fractionOf hshifted 0) (powerDigits_ne_nil d) (isDigit_powerDigits d) negative
      (fun c hc => (hrest c hc).1)
    rw [signed_powerDigits] at hread
    have hvalue := value_positional hshifted 0
    refine ⟨Text.ofDigits (wholeOf ⟨d.digits, 1⟩ ++ fractionOf ⟨d.digits, 1⟩ 0),
      d.point - 1 - (fractionOf ⟨d.digits, 1⟩ 0).length, ?_, ?_⟩
    · rw [sub_eq_add_neg _ ((fractionOf ⟨d.digits, 1⟩ 0).length : ℤ), add_comm,
        zpow_add₀ (by norm_num), ← mul_assoc, hvalue, value, value, mul_assoc,
        ← zpow_add₀ (by norm_num)]
      congr 2
      ring
    · rw [scientific_eq]
      simp only [List.append_assoc, List.cons_append] at hread ⊢
      exact hread

end CaseWorkflow.Decimal

namespace CaseWorkflow.Json

theorem toList_text_finite (negative : Bool) (m : ℕ) (e : ℤ) (hcanonical : Canonical m e) :
    (Double.finite negative m e hcanonical).text.toList
      = signChars negative ++ Double.shortestText m e := by
  cases negative <;> simp [Double.text, signChars]

/-- A double is read back from its text. -/
theorem readNumber_double (negative : Bool) (m : ℕ) (e : ℤ) (hcanonical : Canonical m e)
    {rest : List Char} (hrest : EndsNumber rest) :
    readNumber ((Double.finite negative m e hcanonical).text.toList ++ rest)
      = .ok (.float (.finite negative m e hcanonical), rest) := by
  rw [toList_text_finite, List.append_assoc]
  rcases Nat.eq_zero_or_pos m with rfl | hm
  · have hleast : e = -1074 := by
      rcases hcanonical with ⟨-, -, -, hfull | hleast⟩
      · exact absurd hfull (by decide)
      · exact hleast
    subst hleast
    have hplace : ∀ c ∈ ['0'], c.isDigit = true := by simp
    exact readNumber_places Whole.singleZero hplace (by simp) negative hrest
  · obtain ⟨count, exponent, hcount, hshortest, hattracts⟩ :=
      Decimal.shortest_attracts hm hcanonical
    obtain ⟨count', exponent', hvalue, hread⟩ :=
      Decimal.readNumber_layout (Decimal.proper_ofCount hcount exponent) negative hrest
    rw [Decimal.value_ofCount hcount] at hvalue
    rw [Double.shortestText, hshortest]
    rw [← hvalue] at hattracts
    rw [Double.ofDecimal_of_attracts negative hm hcanonical hattracts] at hread
    exact hread

end CaseWorkflow.Json
