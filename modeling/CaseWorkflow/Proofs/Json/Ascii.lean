import CaseWorkflow.Proofs.Json.RoundTrip

/-!
# JSON texts are ASCII

No character beyond ASCII is written for any value, so that each text that is written has
an encoding.
-/

namespace CaseWorkflow.Json

theorem Ascii.append {as bs : List Char} (ha : Ascii as) (hb : Ascii bs) : Ascii (as ++ bs) := by
  intro c hc
  exact (List.mem_append.mp hc).elim (ha c) (hb c)

theorem Ascii.cons {c : Char} {cs : List Char} (hc : c.toNat < 0x80) (h : Ascii cs) :
    Ascii (c :: cs) := by
  intro d hd
  rcases List.mem_cons.mp hd with rfl | hd
  · exact hc
  · exact h d hd

theorem ascii_of_isDigit {cs : List Char} (h : ∀ c ∈ cs, c.isDigit = true) : Ascii cs :=
  fun c hc => toNat_lt_of_isDigit (h c hc)

theorem Ascii.append_toDigits {cs : List Char} (h : Ascii cs) (n : ℕ) :
    Ascii (cs ++ Nat.toDigits 10 n) :=
  h.append (ascii_of_isDigit fun _ hc => toDigits_isDigit hc)

theorem ascii_dotted {fraction : List Char} (h : ∀ c ∈ fraction, c.isDigit = true) :
    Ascii (dotted fraction) := by
  unfold dotted
  split
  · exact fun c hc => by cases hc
  · exact (ascii_of_isDigit h).cons (by decide)

theorem ascii_layout {d : Decimal} (h : d.Proper) :
    Ascii (if -4 < d.point ∧ d.point ≤ 16 then d.positional 1 false
      else d.scientific 0 false 'e') := by
  split
  · rw [Decimal.positional_eq]
    exact (ascii_of_isDigit (Decimal.whole_wholeOf h).isDigit).append
      (ascii_dotted (Decimal.isDigit_fractionOf h 1))
  · have hshifted : Decimal.Proper ⟨d.digits, 1⟩ := ⟨h.digits_ne_nil, h.head_ne_zero, h.isDigit⟩
    have hsign : (powerSign (d.point - 1)).toNat < 0x80 := by
      unfold powerSign
      split <;> decide
    rw [Decimal.scientific_eq]
    apply Ascii.append
    · exact (ascii_of_isDigit (Decimal.whole_wholeOf hshifted).isDigit).append
        (ascii_dotted (Decimal.isDigit_fractionOf hshifted 0))
    · exact ((ascii_of_isDigit (Decimal.isDigit_powerDigits d)).cons hsign).cons (by decide)

theorem ascii_signChars (negative : Bool) : Ascii (signChars negative) := by
  cases negative <;> decide

theorem ascii_toString (i : ℤ) : Ascii (toString i).toList := by
  rw [toList_toString_int]
  exact (ascii_signChars _).append (ascii_of_isDigit (whole_toDigits i.natAbs).isDigit)

theorem ascii_writeDouble (d : Double) : Ascii (writeDouble d).toList := by
  cases d with
  | nan => decide
  | infinity negative => cases negative <;> decide
  | finite negative m e hcanonical =>
      rw [writeDouble, toList_text_finite]
      · apply (ascii_signChars negative).append
        rcases Nat.eq_zero_or_pos m with rfl | hm
        · obtain rfl : e = -1074 := by
            rcases hcanonical with ⟨-, -, -, hfull | hleast⟩
            · exact absurd hfull (by decide)
            · exact hleast
          decide
        · obtain ⟨count, exponent, hcount, hshortest, -⟩ :=
            Decimal.shortest_attracts hm hcanonical
          rw [Double.shortestText, hshortest]
          exact ascii_layout (Decimal.proper_ofCount hcount exponent)
      · simp
      · simp

/-! ## Texts of values -/

theorem ascii_digitChar {n : ℕ} (h : n < 16) : n.digitChar.toNat < 0x80 := by
  interval_cases n <;> decide

theorem ascii_unitEscape {unit : ℕ} (h : unit < 0x10000) : Ascii (unitEscape unit) := by
  rw [unitEscape, hex_four h]
  intro c hc
  simp only [List.mem_cons, List.not_mem_nil, or_false] at hc
  rcases hc with rfl | rfl | rfl | rfl | rfl | rfl
  · decide
  · decide
  all_goals exact ascii_digitChar (by omega)

theorem ascii_of_simpleEscape? {escape c : Char} (h : simpleEscape? escape = some c) :
    escape.toNat < 0x80 ∧ c.toNat < 0x80 := by
  unfold simpleEscape? at h
  repeat' split at h
  next hsame =>
    obtain rfl := Option.some.inj h
    simp only [Bool.or_eq_true, beq_iff_eq] at hsame
    rcases hsame with (rfl | rfl) | rfl <;> decide
  all_goals first
    | (obtain rfl := beq_iff_eq.mp ‹_›; obtain rfl := Option.some.inj h; decide)
    | cases h

theorem ascii_writeChar (c : Char) : Ascii (writeChar c) := by
  have h := spelled_writeChar c
  generalize writeChar c = spelling at h
  cases h with
  | plain _ _ _ hcode =>
      have hlow : c.toNat < 0x80 := by
        rcases codeOf_cases c with ⟨-, -, hhigh, -⟩ | ⟨-, heq, -⟩ <;> omega
      exact Ascii.cons hlow (by decide)
  | simple escape hescape _ _ =>
      exact Ascii.cons (by decide) (Ascii.cons (ascii_of_simpleEscape? hescape).1 (by decide))
  | unit hcode => exact ascii_unitEscape hcode
  | pair high low hpair _ =>
      obtain ⟨hhigh, hlow, -⟩ := (isPair_iff high low).mp hpair
      exact (ascii_unitEscape (by omega)).append (ascii_unitEscape (by omega))

theorem ascii_writeText (s : String) : Ascii (writeText s).toList := by
  have h := toList_writeText s []
  rw [List.append_nil] at h
  rw [h, written]
  apply Ascii.cons (by decide)
  apply Ascii.append _ (by decide)
  intro c hc
  obtain ⟨d, -, hd⟩ := List.mem_flatMap.mp hc
  exact ascii_writeChar d c hd

theorem ascii_itemChars {items : List Value} (h : ∀ item ∈ items, Ascii (write item).toList) :
    Ascii (itemChars items) := by
  induction items with
  | nil => decide
  | cons item items ih =>
      have hitem := h item (by simp)
      cases items with
      | nil => exact itemChars_singleton item ▸ hitem
      | cons next items =>
          rw [itemChars_cons_cons]
          have hrest := ih fun item hmem => h item (by simp [hmem])
          exact hitem.append ((hrest.cons (by decide)).cons (by decide))

theorem ascii_entryChars {entries : List (String × Value)}
    (h : ∀ entry ∈ entries, Ascii (write entry.2).toList) : Ascii (entryChars entries) := by
  induction entries with
  | nil => decide
  | cons entry entries ih =>
      obtain ⟨key, value⟩ := entry
      have hkey := ascii_writeText key
      have hvalue : Ascii (write value).toList := h (key, value) (by simp)
      cases entries with
      | nil =>
          rw [entryChars_singleton]
          exact hkey.append ((hvalue.cons (by decide)).cons (by decide))
      | cons next entries =>
          rw [entryChars_cons_cons]
          have hrest := ih fun entry hmem => h entry (by simp [hmem])
          have hmore := hvalue.append
            ((hrest.cons (c := ' ') (by decide)).cons (c := ',') (by decide))
          exact hkey.append ((hmore.cons (by decide)).cons (by decide))

/-- What is written for a value is ASCII. -/
theorem ascii_write (v : Value) : Ascii (write v).toList := by
  cases v with
  | null => decide
  | bool value => cases value <;> decide
  | int value => exact ascii_toString value
  | float value => exact ascii_writeDouble value
  | text value => exact ascii_writeText value
  | member value => exact ascii_writeText value.wire
  | date value => exact ascii_writeText value.text
  | moment value => exact ascii_writeText value.text
  | list items =>
      have hitems := ascii_itemChars fun item (_ : item ∈ items) => ascii_write item
      rw [toList_write_list]
      exact (hitems.append (by decide)).cons (by decide)
  | object entries =>
      have hentries := ascii_entryChars fun entry (_ : entry ∈ entries) => ascii_write entry.2
      rw [toList_write_object]
      exact (hentries.append (by decide)).cons (by decide)
termination_by sizeOf v
decreasing_by
  · subst v
    exact sizeOf_item_lt ‹_›
  · subst v
    exact sizeOf_entry_lt ‹_›

end CaseWorkflow.Json
