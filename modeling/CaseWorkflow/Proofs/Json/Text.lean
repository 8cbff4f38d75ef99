import CaseWorkflow.Json.Reader
import CaseWorkflow.Json.Writer
import Mathlib.Tactic

/-!
# Texts in JSON texts

A text is written with escapes only and read back.  Halves that stand side by side are
the one exception: their escapes are read as the character of the pair.  Reading settles
a text, and a settled text is read back as it is.
-/

namespace CaseWorkflow.Json

/-! ## Escapes by code -/

theorem hex_succ (width n : ℕ) (hwidth : 0 < width) :
    Text.hex (width + 1) n = Text.hex width (n / 16) ++ [(n % 16).digitChar] := by
  rcases Nat.lt_or_ge n 16 with hlt | hge
  · rw [Nat.div_eq_of_lt hlt, Nat.mod_eq_of_lt hlt, Text.hex, Text.hex,
      Nat.toDigits_of_lt_base hlt, Nat.toDigits_zero]
    obtain ⟨k, rfl⟩ := Nat.exists_eq_succ_of_ne_zero hwidth.ne'
    simp [List.replicate_succ']
  · rw [Text.hex, Text.hex, Nat.toDigits_of_base_le (by norm_num) hge]
    simp

theorem hex_four {n : ℕ} (h : n < 0x10000) :
    Text.hex 4 n = [(n / 4096).digitChar, (n / 256 % 16).digitChar, (n / 16 % 16).digitChar,
      (n % 16).digitChar] := by
  have hone : Text.hex 1 (n / 16 / 16 / 16) = [(n / 16 / 16 / 16).digitChar] := by
    rw [Text.hex, Nat.toDigits_of_lt_base (by omega)]
    rfl
  rw [hex_succ 3 n (by norm_num), hex_succ 2 _ (by norm_num), hex_succ 1 _ (by norm_num), hone,
    show n / 16 / 16 / 16 = n / 4096 by omega, show n / 16 / 16 = n / 256 by omega]
  rfl

theorem hexDigit?_digitChar {d : ℕ} (h : d < 16) : hexDigit? d.digitChar = some d := by
  interval_cases d <;> decide

theorem unit?_hex {n : ℕ} (h : n < 0x10000) (rest : List Char) :
    unit? (Text.hex 4 n ++ rest) = some (n, rest) := by
  have hvalue : ((n / 4096 * 16 + n / 256 % 16) * 16 + n / 16 % 16) * 16 + n % 16 = n := by
    omega
  rw [hex_four h]
  simp only [List.cons_append, List.nil_append, unit?,
    hexDigit?_digitChar (show n / 4096 < 16 by omega),
    hexDigit?_digitChar (show n / 256 % 16 < 16 by omega),
    hexDigit?_digitChar (show n / 16 % 16 < 16 by omega),
    hexDigit?_digitChar (show n % 16 < 16 by omega)]
  change some (((n / 4096 * 16 + n / 256 % 16) * 16 + n / 16 % 16) * 16 + n % 16, rest) = _
  rw [hvalue]

theorem length_hex_four {n : ℕ} (h : n < 0x10000) : (Text.hex 4 n).length = 4 := by
  rw [hex_four h]
  rfl

/-! ## Characters and their codes -/

theorem toNat_valid (c : Char) : c.toNat < 0xD800 ∨ 0xDFFF < c.toNat ∧ c.toNat < 0x110000 :=
  c.valid

theorem isHalf_iff (c : Char) : Text.isHalf c = true ↔ 0x10D800 ≤ c.toNat ∧ c.toNat < 0x10E000 := by
  rw [Text.isHalf, Bool.and_eq_true, decide_eq_true_iff, decide_eq_true_iff]
  rfl

theorem codeOf_cases (c : Char) :
    (Text.isHalf c = true ∧ Text.codeOf c + 0x100000 = c.toNat ∧
        0xD800 ≤ Text.codeOf c ∧ Text.codeOf c < 0xE000) ∨
      (Text.isHalf c = false ∧ Text.codeOf c = c.toNat ∧
        (Text.codeOf c < 0xD800 ∨ 0xDFFF < Text.codeOf c ∧ Text.codeOf c < 0x110000)) := by
  by_cases h : Text.isHalf c = true
  · have hrange := (isHalf_iff c).mp h
    left
    have hcode : Text.codeOf c = c.toNat - 0x100000 := if_pos h
    refine ⟨h, ?_⟩
    omega
  · right
    have hvalid := toNat_valid c
    simp only [Bool.not_eq_true] at h
    rw [Text.codeOf_of_not_isHalf h]
    exact ⟨h, rfl, hvalid⟩

theorem isHighUnit_iff (unit : ℕ) : isHighUnit unit = true ↔ 0xD800 ≤ unit ∧ unit < 0xDC00 := by
  simp [isHighUnit]

theorem isLowUnit_iff (unit : ℕ) : isLowUnit unit = true ↔ 0xDC00 ≤ unit ∧ unit < 0xE000 := by
  simp [isLowUnit]

/-- The unit of a character in the basic plane, or of a half, is read as it. -/
theorem ofUnit_codeOf {c : Char} (h : Text.codeOf c < 0x10000) : ofUnit (Text.codeOf c) = c := by
  unfold ofUnit
  rcases codeOf_cases c with ⟨-, hcode, hlow, hhigh⟩ | ⟨-, hcode, hrange⟩
  · have hunit : (isHighUnit (Text.codeOf c) || isLowUnit (Text.codeOf c)) = true := by
      rw [Bool.or_eq_true, isHighUnit_iff, isLowUnit_iff]
      omega
    rw [if_pos hunit, Text.ofHalf, Text.halfDistance, hcode, Char.ofNat_toNat]
  · have hunit : ¬(isHighUnit (Text.codeOf c) || isLowUnit (Text.codeOf c)) = true := by
      rw [Bool.or_eq_true, isHighUnit_iff, isLowUnit_iff]
      omega
    rw [if_neg hunit, hcode, Char.ofNat_toNat]

theorem isPair_iff (high low : ℕ) :
    isPair high low = true ↔ (0xD800 ≤ high ∧ high < 0xDC00) ∧ (0xDC00 ≤ low ∧ low < 0xE000) ∧
      Text.isHalf (ofPair high low) = false := by
  simp [isPair, isHighUnit_iff, isLowUnit_iff, and_assoc]

theorem toNat_ofPair {high low : ℕ} (hhigh : 0xD800 ≤ high ∧ high < 0xDC00)
    (hlow : 0xDC00 ≤ low ∧ low < 0xE000) :
    (ofPair high low).toNat = 0x10000 + (high - 0xD800) * 0x400 + (low - 0xDC00) := by
  unfold ofPair
  rw [Char.ofNat, dif_pos (Or.inr (by omega))]
  rfl

/-- The character of a pair is neither half of another one. -/
theorem codeOf_ofPair {high low : ℕ} (h : isPair high low = true) :
    0x10000 ≤ Text.codeOf (ofPair high low) := by
  obtain ⟨hhigh, hlow, hhalf⟩ := (isPair_iff high low).mp h
  rw [Text.codeOf_of_not_isHalf hhalf, toNat_ofPair hhigh hlow]
  omega

/-! ## Settled texts -/

/-- The characters with each pair of halves replaced by its character. -/
def joined : List Char → List Char
  | a :: b :: rest =>
    if isPair (Text.codeOf a) (Text.codeOf b) then
      ofPair (Text.codeOf a) (Text.codeOf b) :: joined rest
    else a :: joined (b :: rest)
  | cs => cs

/-- No two halves that are a pair stand side by side. -/
def Unpaired (cs : List Char) : Prop :=
  List.IsChain (fun a b => isPair (Text.codeOf a) (Text.codeOf b) = false) cs

theorem joined_of_unpaired {cs : List Char} (h : Unpaired cs) : joined cs = cs := by
  induction cs with
  | nil => rfl
  | cons a rest ih =>
      cases rest with
      | nil => rfl
      | cons b rest =>
          obtain ⟨hpair, hrest⟩ := List.isChain_cons_cons.mp h
          rw [joined, hpair, if_neg Bool.false_ne_true, ih hrest]

/-- Nothing before a settled text makes a pair with its head, unless it did so before. -/
theorem isPair_head?_joined (a : ℕ) {b : Char} {rest : List Char}
    (h : isPair a (Text.codeOf b) = false) :
    ∀ c ∈ (joined (b :: rest)).head?, isPair a (Text.codeOf c) = false := by
  intro c hc
  cases rest with
  | nil =>
      obtain rfl : b = c := by simpa [joined] using hc
      exact h
  | cons d rest =>
      rw [joined] at hc
      split at hc
      next hpair =>
        obtain rfl : ofPair (Text.codeOf b) (Text.codeOf d) = c := by simpa using hc
        have hcode := codeOf_ofPair hpair
        rw [Bool.eq_false_iff, Ne, isPair_iff]
        omega
      next =>
        obtain rfl : b = c := by simpa using hc
        exact h

theorem unpaired_joined (cs : List Char) : Unpaired (joined cs) := by
  fun_induction joined cs with
  | case1 a b rest hpair ih =>
      apply List.isChain_cons.mpr
      refine ⟨fun c _ => ?_, ih⟩
      have hcode := codeOf_ofPair hpair
      rw [Bool.eq_false_iff, Ne, isPair_iff]
      omega
  | case2 a b rest hpair ih =>
      apply List.isChain_cons.mpr
      exact ⟨isPair_head?_joined _ (Bool.not_eq_true _ ▸ hpair), ih⟩
  | case3 cs hshort =>
      rcases cs with _ | ⟨a, _ | ⟨b, rest⟩⟩
      · exact List.isChain_nil
      · exact List.isChain_singleton _
      · exact absurd rfl (hshort a b rest)

theorem joined_joined (cs : List Char) : joined (joined cs) = joined cs :=
  joined_of_unpaired (unpaired_joined cs)

/-! ## What is written for a character -/

/-- The four ways in which a character is written. -/
inductive Spelled (c : Char) : List Char → Prop
  | plain (hquote : c ≠ Text.doubleQuote) (hslash : c ≠ '\\') (hprintable : 0x20 ≤ c.toNat)
      (hcode : Text.codeOf c < 0x80) : Spelled c [c]
  | simple (escape : Char) (hescape : simpleEscape? escape = some c) (hne : escape ≠ 'u')
      (hcode : Text.codeOf c < 0x80) : Spelled c ['\\', escape]
  | unit (hcode : Text.codeOf c < 0x10000) : Spelled c (unitEscape (Text.codeOf c))
  | pair (high low : ℕ) (hpair : isPair high low = true) (heq : ofPair high low = c) :
      Spelled c (unitEscape high ++ unitEscape low)

theorem spelled_escaped (c : Char) : Spelled c (escaped c) := by
  unfold escaped
  split
  next hcode => exact .unit hcode
  next hcode =>
    rcases codeOf_cases c with ⟨-, -, -, hhigh⟩ | ⟨hhalf, htoNat, hrange⟩
    · omega
    · have hpair : ofPair (0xD800 + (c.toNat - 0x10000) / 0x400)
          (0xDC00 + (c.toNat - 0x10000) % 0x400) = c := by
        rw [ofPair, show 0x10000 + (0xD800 + (c.toNat - 0x10000) / 0x400 - 0xD800) * 0x400
          + (0xDC00 + (c.toNat - 0x10000) % 0x400 - 0xDC00) = c.toNat by omega, Char.ofNat_toNat]
      refine .pair _ _ ?_ hpair
      rw [isPair_iff, hpair]
      refine ⟨?_, ?_, hhalf⟩ <;> omega

theorem spelled_writeChar (c : Char) : Spelled c (writeChar c) := by
  unfold writeChar
  split
  next h =>
    simp only [Bool.or_eq_true, beq_iff_eq] at h
    rcases h with rfl | rfl
    · exact .simple _ rfl (by decide) (by decide)
    · exact .simple _ rfl (by decide) (by decide)
  next hfirst =>
    simp only [Bool.or_eq_true, beq_iff_eq, not_or] at hfirst
    split
    next h => obtain rfl := beq_iff_eq.mp h; exact .simple _ rfl (by decide) (by decide)
    split
    next h => obtain rfl := beq_iff_eq.mp h; exact .simple _ rfl (by decide) (by decide)
    split
    next h => obtain rfl := beq_iff_eq.mp h; exact .simple _ rfl (by decide) (by decide)
    split
    next h => obtain rfl := beq_iff_eq.mp h; exact .simple _ rfl (by decide) (by decide)
    split
    next h => obtain rfl := beq_iff_eq.mp h; exact .simple _ rfl (by decide) (by decide)
    split
    next hprintable =>
      simp only [Bool.and_eq_true, decide_eq_true_eq] at hprintable
      refine .plain hfirst.1 hfirst.2 hprintable.1 ?_
      rcases codeOf_cases c with ⟨-, h, -, -⟩ | ⟨-, h, -⟩ <;> omega
    next => exact spelled_escaped c

/-- Characters beyond ASCII in the basic plane, and halves, are written by their unit. -/
theorem writeChar_of_unit {c : Char} (hlow : 0x80 ≤ Text.codeOf c)
    (hhigh : Text.codeOf c < 0x10000) : writeChar c = unitEscape (Text.codeOf c) := by
  have h := spelled_writeChar c
  generalize writeChar c = spelling at h
  cases h with
  | plain _ _ _ hcode => omega
  | simple _ _ _ hcode => omega
  | unit _ => rfl
  | pair high low hpair heq =>
      have hcode := codeOf_ofPair hpair
      rw [heq] at hcode
      omega

/-! ## Reading what was written -/

/-- The characters of a text with the closing quote, and what stands after it. -/
def written (cs tail : List Char) : List Char := cs.flatMap writeChar ++ Text.doubleQuote :: tail

theorem written_cons (c : Char) (cs tail : List Char) :
    written (c :: cs) tail = writeChar c ++ written cs tail := by
  simp [written]

theorem written_ne_nil (cs tail : List Char) : written cs tail ≠ [] := by
  simp [written]

/-- The two escapes of a pair are read together. -/
theorem codeEscape_pair {high low : ℕ} (hpair : isPair high low = true) {beyond : List Char}
    (hbeyond : beyond ≠ []) :
    codeEscape (Text.hex 4 high ++ (unitEscape low ++ beyond)) = .ok (ofPair high low, beyond) := by
  obtain ⟨hhigh, hlow, -⟩ := (isPair_iff high low).mp hpair
  have hdrop : ((Text.hex 4 low ++ beyond).drop 4).isEmpty = false := by
    rw [List.drop_left' (length_hex_four (by omega))]
    simpa using hbeyond
  have hunit := (isHighUnit_iff high).mpr hhigh
  simp only [codeEscape, unit?_hex (show high < 0x10000 by omega), unitEscape, List.cons_append,
    hunit, hdrop, Bool.not_false, Bool.and_true, if_true,
    unit?_hex (show low < 0x10000 by omega), hpair]

/-- An escape that makes no pair with the next character is read alone. -/
theorem codeEscape_alone {unit : ℕ} (hunit : unit < 0x10000) (cs tail : List Char)
    (hpair : ∀ c ∈ cs.head?, isPair unit (Text.codeOf c) = false) :
    codeEscape (Text.hex 4 unit ++ written cs tail) = .ok (ofUnit unit, written cs tail) := by
  have hnext : ∀ after, written cs tail = '\\' :: 'u' :: after →
      ∃ low beyond, low < 0x10000 ∧ after = Text.hex 4 low ++ beyond ∧
        isPair unit low = false := by
    intro after heq
    cases cs with
    | nil => simp [written, Text.doubleQuote] at heq
    | cons c cs =>
        have hc := hpair c (by simp)
        have h := spelled_writeChar c
        rw [written_cons] at heq
        generalize writeChar c = spelling at h heq
        cases h with
        | plain _ hslash _ _ =>
            simp only [List.cons_append, List.nil_append, List.cons.injEq] at heq
            exact absurd heq.1 hslash
        | simple escape _ hne _ =>
            simp only [List.cons_append, List.nil_append, List.cons.injEq] at heq
            exact absurd heq.2.1 hne
        | unit hcode =>
            simp only [unitEscape, List.cons_append, List.cons.injEq, true_and] at heq
            exact ⟨_, _, hcode, heq.symm, hc⟩
        | pair high low hhigh _ =>
            simp only [unitEscape, List.cons_append, List.append_assoc, List.cons.injEq,
              true_and] at heq
            have hrange := ((isPair_iff high low).mp hhigh).1
            refine ⟨_, _, by omega, heq.symm, ?_⟩
            rw [Bool.eq_false_iff, Ne, isPair_iff]
            omega
  generalize hrest : written cs tail = rest at hnext
  have hne : rest ≠ [] := hrest ▸ written_ne_nil cs tail
  unfold codeEscape
  rw [unit?_hex hunit]
  split
  next h => simp at h
  next h =>
    simp only [Option.some.injEq, Prod.mk.injEq] at h
    exact absurd h.2 hne
  next unit' rest' _ h =>
    simp only [Option.some.injEq, Prod.mk.injEq] at h
    obtain ⟨rfl, rfl⟩ := h
    split
    next after _ =>
      split
      next =>
        obtain ⟨low, beyond, hlow, rfl, hpair⟩ := hnext after rfl
        rw [unit?_hex hlow]
        simp only [hpair, Bool.false_eq_true, if_false]
      next => rfl
    next => rfl

theorem ok_bind {ε α β : Type} (a : α) (next : α → Except ε β) :
    (Except.ok a >>= next) = next a :=
  rfl

/-- One character of a written text is read, unless it is half of a pair. -/
theorem readChars_step (start : List Char) (fuel : ℕ) (c : Char) (cs tail : List Char)
    (hpair : ∀ d ∈ cs.head?, isPair (Text.codeOf c) (Text.codeOf d) = false)
    {more rest : List Char} (hmore : readChars start fuel (written cs tail) = .ok (more, rest)) :
    readChars start (fuel + 1) (written (c :: cs) tail) = .ok (c :: more, rest) := by
  have h := spelled_writeChar c
  rw [written_cons]
  generalize writeChar c = spelling at h
  have hquote : ('\\' == Text.doubleQuote) = false := by decide
  cases h with
  | plain hne hslash hprintable _ =>
      have hcontrol : ¬c.toNat < 0x20 := by omega
      simp only [List.cons_append, List.nil_append, readChars, beq_iff_eq, hne, hslash, hcontrol,
        if_false, hmore]
      rfl
  | simple escape hescape hne _ =>
      simp only [List.cons_append, List.nil_append, readChars, hquote, Bool.false_eq_true,
        if_false, beq_self_eq_true, if_true]
      rw [hescape]
      simp only [hmore]
      rfl
  | unit hcode =>
      simp only [unitEscape, List.cons_append, readChars, hquote, Bool.false_eq_true, if_false,
        beq_self_eq_true, if_true, codeEscape_alone hcode cs tail hpair, ofUnit_codeOf hcode]
      change (readChars start fuel (written cs tail) >>= _) = _
      rw [hmore]
      rfl
  | pair high low hhigh heq =>
      have hread := codeEscape_pair hhigh (written_ne_nil cs tail)
      rw [List.append_assoc]
      simp only [unitEscape, List.cons_append, readChars, hquote, Bool.false_eq_true, if_false,
        beq_self_eq_true, if_true] at hread ⊢
      rw [hread, heq]
      change (readChars start fuel (written cs tail) >>= _) = _
      rw [hmore]
      rfl

/-- The halves of a pair are read as its character. -/
theorem readChars_pair (start : List Char) (fuel : ℕ) (a b : Char) (cs tail : List Char)
    (hpair : isPair (Text.codeOf a) (Text.codeOf b) = true)
    {more rest : List Char} (hmore : readChars start fuel (written cs tail) = .ok (more, rest)) :
    readChars start (fuel + 1) (written (a :: b :: cs) tail)
      = .ok (ofPair (Text.codeOf a) (Text.codeOf b) :: more, rest) := by
  have hquote : ('\\' == Text.doubleQuote) = false := by decide
  have hread := codeEscape_pair hpair (written_ne_nil cs tail)
  obtain ⟨hhigh, hlow, -⟩ := (isPair_iff _ _).mp hpair
  rw [written_cons, written_cons, writeChar_of_unit (by omega) (by omega),
    writeChar_of_unit (by omega) (by omega)]
  simp only [unitEscape, List.cons_append, readChars, hquote, Bool.false_eq_true, if_false,
    beq_self_eq_true, if_true] at hread ⊢
  rw [hread, ok_bind]
  simp only [hmore, ok_bind]
  rfl

/-- A written text is read as the settled one. -/
theorem readChars_written (start cs tail : List Char) (fuel : ℕ) (hfuel : cs.length < fuel) :
    readChars start fuel (written cs tail) = .ok (joined cs, tail) := by
  fun_induction joined cs generalizing fuel with
  | case1 a b rest hpair ih =>
      obtain ⟨fuel, rfl⟩ := Nat.exists_eq_succ_of_ne_zero (Nat.ne_zero_of_lt hfuel)
      simp only [List.length_cons] at hfuel
      exact readChars_pair start fuel a b rest tail hpair (ih fuel (by omega))
  | case2 a b rest hpair ih =>
      obtain ⟨fuel, rfl⟩ := Nat.exists_eq_succ_of_ne_zero (Nat.ne_zero_of_lt hfuel)
      simp only [List.length_cons] at hfuel
      apply readChars_step start fuel a (b :: rest) tail ?_ (ih fuel (by simpa using hfuel))
      intro d hd
      obtain rfl : b = d := by simpa using hd
      exact Bool.not_eq_true _ ▸ hpair
  | case3 cs hshort =>
      obtain ⟨fuel, rfl⟩ := Nat.exists_eq_succ_of_ne_zero (Nat.ne_zero_of_lt hfuel)
      rcases cs with _ | ⟨a, _ | ⟨b, rest⟩⟩
      · rfl
      · simp only [List.length_singleton] at hfuel
        obtain ⟨fuel, rfl⟩ : ∃ n, fuel = n + 1 := ⟨fuel - 1, by omega⟩
        exact readChars_step start (fuel + 1) a [] tail (by simp) rfl
      · exact absurd rfl (hshort a b rest)

/-- The text that is read of a text that was written. -/
def settledText (s : String) : String := String.ofList (joined s.toList)

theorem settledText_settledText (s : String) : settledText (settledText s) = settledText s := by
  rw [settledText, settledText, String.toList_ofList, joined_joined]

/-- No character is beyond ASCII. -/
def Ascii (cs : List Char) : Prop := ∀ c ∈ cs, c.toNat < 0x80

instance (cs : List Char) : Decidable (Ascii cs) :=
  List.decidableBAll (fun c : Char => c.toNat < 0x80) cs

/-- A text without halves is read as it is. -/
theorem settledText_of_not_isHalf {s : String} (h : ∀ c ∈ s.toList, Text.isHalf c = false) :
    settledText s = s := by
  have hunpaired : Unpaired s.toList := by
    apply List.isChain_iff_getElem.mpr
    intro i hi
    have hhalf := h s.toList[i] (List.getElem_mem _)
    rw [Bool.eq_false_iff, Ne, isPair_iff]
    rcases codeOf_cases s.toList[i] with ⟨htrue, -⟩ | ⟨-, -, hrange⟩
    · exact absurd (htrue.symm.trans hhalf) (by decide)
    · omega
  rw [settledText, joined_of_unpaired hunpaired, String.ofList_toList]

/-- A text of ASCII characters has an encoding. -/
theorem Ascii.not_isHalf {cs : List Char} (h : Ascii cs) : ∀ c ∈ cs, Text.isHalf c = false := by
  intro c hc
  have hlow := h c hc
  rw [Bool.eq_false_iff, Ne, isHalf_iff]
  omega

theorem settledText_ascii {s : String} (h : Ascii s.toList) : settledText s = s :=
  settledText_of_not_isHalf h.not_isHalf

theorem toList_writeText (s : String) (tail : List Char) :
    (writeText s).toList ++ tail = Text.doubleQuote :: written s.toList tail := by
  simp [writeText, written]

theorem readText_written (s : String) (tail : List Char) (fuel : ℕ)
    (hfuel : s.toList.length < fuel) :
    readText fuel (written s.toList tail) = .ok (settledText s, tail) := by
  rw [readText, readChars_written _ _ _ _ hfuel]
  rfl

end CaseWorkflow.Json
