import CaseWorkflow.Proofs.Json.Ascii
import CaseWorkflow.Proofs.Json.Plain
import CaseWorkflow.Proofs.Rows

/-!
# Values that were read

What is read of a text without halves is plain, and no integer in it has too many digits.  A
half can come in by a code escape only; where the other half follows, the two are read as one
character.
-/

namespace CaseWorkflow.Json

/-- No character stands for a half. -/
def Halfless (cs : List Char) : Prop := ∀ c ∈ cs, Text.isHalf c = false

theorem Halfless.suffix {cs rest : List Char} (h : Halfless cs) (hrest : rest <:+ cs) :
    Halfless rest := fun c hc => h c (hrest.mem hc)

/-! ## Characters of texts -/

/-- The character that is read where a text goes on, and what is left behind it. -/
inductive Decodes : List Char → Char → List Char → Prop
  | code {digits rest : List Char} {c : Char} (h : codeEscape digits = .ok (c, rest)) :
    Decodes ('\\' :: 'u' :: digits) c rest
  | simple {escape c : Char} (rest : List Char) (hcode : escape ≠ 'u')
    (h : simpleEscape? escape = some c) : Decodes ('\\' :: escape :: rest) c rest
  | plain {c : Char} (rest : List Char) (h : c ≠ '\\') : Decodes (c :: rest) c rest

section Texts

variable {cs rest chars after : List Char} {c d : Char} {unit : ℕ}

theorem hexDigit?_lt {n : ℕ} (h : hexDigit? c = some n) : n < 16 := by
  unfold hexDigit? at h
  split_ifs at h with hdigit hlower hupper
  · obtain rfl := Option.some.inj h
    have hrange : 48 ≤ c.toNat ∧ c.toNat ≤ 57 := Char.isDigit_iff_toNat.mp hdigit
    omega
  · obtain rfl := Option.some.inj h
    simp only [Bool.and_eq_true, decide_eq_true_eq, Char.le_def, UInt32.le_iff_toNat_le] at hlower
    have hf : ('f' : Char).val.toNat = 102 := rfl
    have hc : c.toNat = c.val.toNat := rfl
    omega
  · obtain rfl := Option.some.inj h
    simp only [Bool.and_eq_true, decide_eq_true_eq, Char.le_def, UInt32.le_iff_toNat_le] at hupper
    have hF : ('F' : Char).val.toNat = 70 := rfl
    have hc : c.toNat = c.val.toNat := rfl
    omega

theorem codeOf_ofUnit (h : unit < 0x10000) : Text.codeOf (ofUnit unit) = unit := by
  unfold ofUnit
  split
  next hhalf =>
    rw [Bool.or_eq_true, isHighUnit_iff, isLowUnit_iff] at hhalf
    have hvalid : (unit + Text.halfDistance).isValidChar := .inr (by
      rw [Text.halfDistance]
      omega)
    have hnat : (Text.ofHalf unit).toNat = unit + 0x100000 := by
      rw [Text.ofHalf, Char.ofNat, dif_pos hvalid]
      rfl
    rcases codeOf_cases (Text.ofHalf unit) with ⟨-, hcode, -⟩ | ⟨hfalse, -⟩
    · omega
    · rw [Bool.eq_false_iff, Ne, isHalf_iff] at hfalse
      omega
  next hwhole =>
    rw [Bool.or_eq_true, isHighUnit_iff, isLowUnit_iff] at hwhole
    have hnat : (Char.ofNat unit).toNat = unit := by
      rw [Char.ofNat, dif_pos (show unit.isValidChar by unfold Nat.isValidChar; omega)]
      rfl
    rcases codeOf_cases (Char.ofNat unit) with ⟨hhalf, -⟩ | ⟨-, hcode, -⟩
    · rw [isHalf_iff] at hhalf
      omega
    · omega

theorem unit?_eq_some (h : unit? cs = some (unit, rest)) : unit < 0x10000 ∧ rest = cs.drop 4 := by
  unfold unit? at h
  split at h
  next a b c d rest' =>
    simp only [Option.bind_eq_bind, Option.bind_eq_some_iff] at h
    obtain ⟨a', ha, b', hb, c', hc, d', hd, h⟩ := h
    have := hexDigit?_lt ha
    have := hexDigit?_lt hb
    have := hexDigit?_lt hc
    have := hexDigit?_lt hd
    obtain ⟨rfl, rfl⟩ := Prod.mk.inj (Option.some.inj h)
    exact ⟨by omega, rfl⟩
  next => cases h

theorem codeEscape_eq_ok (h : codeEscape cs = .ok (c, rest)) :
    ∃ unit after, unit? cs = some (unit, after) ∧ after ≠ [] ∧
      ((c = ofUnit unit ∧ rest = after ∧ ∀ escape low, after = '\\' :: 'u' :: escape →
          unit? escape = some (low, escape.drop 4) → escape.drop 4 ≠ [] → isPair unit low = false) ∨
        ∃ escape low, after = '\\' :: 'u' :: escape ∧ unit? escape = some (low, rest) ∧
          isPair unit low = true ∧ c = ofPair unit low) := by
  unfold codeEscape at h
  split at h
  next => cases h
  next => cases h
  next unit after hnonempty hunit =>
    refine ⟨unit, after, hunit, fun heq => hnonempty heq, ?_⟩
    split at h
    next escape =>
      split at h
      next hlong =>
        cases hlow : unit? escape with
        | none =>
            rw [hlow] at h
            cases h
        | some pair =>
            obtain ⟨low, beyond⟩ := pair
            simp only [hlow] at h
            split at h
            next hpair =>
              obtain ⟨rfl, rfl⟩ := Prod.mk.inj (Except.ok.inj h)
              exact .inr ⟨escape, low, rfl, hlow, hpair, rfl⟩
            next hpair =>
              obtain ⟨rfl, rfl⟩ := Prod.mk.inj (Except.ok.inj h)
              refine .inl ⟨rfl, rfl, fun other low' heq hother _ => ?_⟩
              obtain rfl : escape = other := by simpa using heq
              obtain rfl : low = low' := by
                rw [hlow] at hother
                exact (Prod.mk.inj (Option.some.inj hother)).1
              exact Bool.eq_false_iff.mpr hpair
      next hshort =>
        obtain ⟨rfl, rfl⟩ := Prod.mk.inj (Except.ok.inj h)
        refine .inl ⟨rfl, rfl, fun other low heq _ hbeyond => ?_⟩
        obtain rfl : escape = other := by simpa using heq
        have hhigh : isHighUnit unit = false := by simpa [hbeyond] using hshort
        rw [isPair, hhigh]
        rfl
    next hother =>
      obtain ⟨rfl, rfl⟩ := Prod.mk.inj (Except.ok.inj h)
      exact .inl ⟨rfl, rfl, fun escape low heq => absurd heq (hother escape)⟩

theorem readChars_eq_ok {start : List Char} {fuel : ℕ}
    (h : readChars start (fuel + 1) cs = .ok (chars, rest)) :
    (chars = [] ∧ cs = Text.doubleQuote :: rest) ∨
      ∃ c more after, chars = c :: more ∧ Decodes cs c after ∧
        readChars start fuel after = .ok (more, rest) := by
  rw [readChars.eq_def] at h
  dsimp only at h
  cases cs with
  | nil => cases h
  | cons c cs =>
  dsimp only at h
  split at h
  next hquote =>
    obtain ⟨rfl, rfl⟩ := Prod.mk.inj (Except.ok.inj h)
    exact .inl ⟨rfl, by rw [beq_iff_eq.mp hquote]⟩
  split at h
  next hslash =>
    obtain rfl := beq_iff_eq.mp hslash
    split at h
    next => cases h
    next digits =>
      obtain ⟨⟨d, after⟩, hcode, h⟩ := bind_eq_ok h
      obtain ⟨⟨more, rest'⟩, hmore, h⟩ := bind_eq_ok h
      obtain ⟨rfl, rfl⟩ := Prod.mk.inj (Except.ok.inj h)
      exact .inr ⟨d, more, after, rfl, .code hcode, hmore⟩
    next escape after hcode =>
      split at h
      next => cases h
      next d hsimple =>
        obtain ⟨⟨more, rest'⟩, hmore, h⟩ := bind_eq_ok h
        obtain ⟨rfl, rfl⟩ := Prod.mk.inj (Except.ok.inj h)
        exact .inr ⟨d, more, after, rfl, .simple after hcode hsimple, hmore⟩
  next hslash =>
    split at h
    next => cases h
    next =>
      obtain ⟨⟨more, rest'⟩, hmore, h⟩ := bind_eq_ok h
      obtain ⟨rfl, rfl⟩ := Prod.mk.inj (Except.ok.inj h)
      exact .inr ⟨c, more, cs, rfl, .plain cs (by simpa using hslash), hmore⟩

theorem suffix_of_unit? (h : unit? cs = some (unit, rest)) : rest <:+ cs :=
  (unit?_eq_some h).2 ▸ List.drop_suffix 4 cs

theorem Decodes.suffix (h : Decodes cs c rest) : rest <:+ cs := by
  cases h with
  | @code digits rest c hcode =>
      have hdigits : digits <:+ '\\' :: 'u' :: digits :=
        (List.suffix_cons _ _).trans (List.suffix_cons _ _)
      obtain ⟨unit, after, hunit, -, hrest⟩ := codeEscape_eq_ok hcode
      have hafter := (suffix_of_unit? hunit).trans hdigits
      rcases hrest with ⟨-, rfl, -⟩ | ⟨escape, low, rfl, hlow, -⟩
      · exact hafter
      · have hescape : escape <:+ '\\' :: 'u' :: escape :=
          (List.suffix_cons _ _).trans (List.suffix_cons _ _)
        exact ((suffix_of_unit? hlow).trans hescape).trans hafter
  | simple rest hcode hsimple => exact (List.suffix_cons _ _).trans (List.suffix_cons _ _)
  | plain rest hslash => exact List.suffix_cons _ _

/-- A half is read of a code escape only, and of one that the next escape is no pair with. -/
theorem Decodes.of_half (h : Decodes cs c rest) (hcs : Halfless cs)
    (hhalf : 0xD800 ≤ Text.codeOf c ∧ Text.codeOf c < 0xE000) :
    ∃ escape, cs = '\\' :: 'u' :: escape ∧
      unit? escape = some (Text.codeOf c, escape.drop 4) ∧ escape.drop 4 ≠ [] ∧
      ∀ next low, rest = '\\' :: 'u' :: next → unit? next = some (low, next.drop 4) →
        next.drop 4 ≠ [] → isPair (Text.codeOf c) low = false := by
  cases h with
  | @code digits rest c hcode =>
      obtain ⟨unit, after, hunit, hne, hread⟩ := codeEscape_eq_ok hcode
      obtain ⟨hlt, rfl⟩ := unit?_eq_some hunit
      rcases hread with ⟨rfl, rfl, hsingle⟩ | ⟨-, low, -, -, hpair, hc⟩
      · rw [codeOf_ofUnit hlt]
        exact ⟨digits, rfl, hunit, hne, hsingle⟩
      · have hcode := codeOf_ofPair hpair
        rw [← hc] at hcode
        omega
  | simple rest hcode hsimple =>
      obtain ⟨-, hascii⟩ := ascii_of_simpleEscape? hsimple
      rcases codeOf_cases c with ⟨-, hcode, -⟩ | ⟨-, hcode, -⟩ <;> omega
  | plain rest hslash =>
      have hwhole := hcs c List.mem_cons_self
      rcases codeOf_cases c with ⟨htrue, -⟩ | ⟨-, hcode, hrange⟩
      · rw [htrue] at hwhole
        cases hwhole
      · omega

/-- A character that is read makes no pair with the next one. -/
theorem Decodes.unpaired (h : Decodes cs c rest) (hcs : Halfless cs)
    (hnext : Decodes rest d after) :
    isPair (Text.codeOf c) (Text.codeOf d) = false := by
  rw [Bool.eq_false_iff]
  intro hpair
  obtain ⟨hhigh, hlow, -⟩ := (isPair_iff _ _).mp hpair
  obtain ⟨-, -, -, -, hsingle⟩ := h.of_half hcs (by omega)
  obtain ⟨next, hrest, hunit, hne, -⟩ := hnext.of_half (hcs.suffix h.suffix) (by omega)
  rw [hsingle next _ hrest hunit hne] at hpair
  cases hpair

/-- The characters that are read of a text without halves make no pairs. -/
theorem unpaired_of_readChars {start : List Char} {fuel : ℕ} (hcs : Halfless cs)
    (h : readChars start fuel cs = .ok (chars, rest)) : Unpaired chars ∧ rest <:+ cs := by
  induction fuel generalizing cs chars with
  | zero => cases h
  | succ fuel ih =>
      rcases readChars_eq_ok h with ⟨rfl, rfl⟩ | ⟨c, more, after, rfl, hdecodes, hmore⟩
      · exact ⟨List.isChain_nil, List.suffix_cons _ _⟩
      obtain ⟨hunpaired, hrest⟩ := ih (hcs.suffix hdecodes.suffix) hmore
      refine ⟨List.isChain_cons.mpr ⟨fun d hd => ?_, hunpaired⟩, hrest.trans hdecodes.suffix⟩
      cases fuel with
      | zero => cases hmore
      | succ fuel =>
          rcases readChars_eq_ok hmore with ⟨rfl, -⟩ | ⟨e, rest', after', rfl, hnext, -⟩
          · cases hd
          · obtain rfl : e = d := Option.some.inj hd
            exact hdecodes.unpaired hcs hnext

theorem settledText_of_readText {s : String} {fuel : ℕ} (hcs : Halfless cs)
    (h : readText fuel cs = .ok (s, rest)) : settledText s = s ∧ rest <:+ cs := by
  obtain ⟨⟨chars, after⟩, hchars, h⟩ := bind_eq_ok h
  obtain ⟨rfl, rfl⟩ := Prod.mk.inj (Except.ok.inj h)
  obtain ⟨hunpaired, hrest⟩ := unpaired_of_readChars hcs hchars
  rw [settledText, String.toList_ofList, joined_of_unpaired hunpaired]
  exact ⟨rfl, hrest⟩

end Texts

/-! ## Numbers -/

section Numbers

variable {cs rest digits : List Char} {v : Value}

theorem suffix_of_wholeDigits? (h : wholeDigits? cs = some (digits, rest)) :
    rest <:+ cs ∧ ∀ c ∈ digits, c.isDigit = true := by
  unfold wholeDigits? at h
  split at h
  next after =>
    obtain ⟨rfl, rfl⟩ := Prod.mk.inj (Option.some.inj h)
    exact ⟨List.suffix_cons _ _, by simp⟩
  next =>
    dsimp only at h
    split at h
    next => cases h
    next =>
      obtain ⟨rfl, rfl⟩ := Prod.mk.inj (Option.some.inj h)
      exact ⟨List.dropWhile_suffix _, fun c hc => List.all_eq_true.mp List.all_takeWhile c hc⟩

theorem suffix_places (cs : List Char) : (places cs).2 <:+ cs := by
  unfold places
  split
  next cs =>
    dsimp only
    split
    next => exact List.suffix_refl _
    next => exact (List.dropWhile_suffix _).trans (List.suffix_cons _ _)
  next => exact List.suffix_refl _

theorem suffix_sign (cs : List Char) : (NumberText.sign cs).2 <:+ cs := by
  unfold NumberText.sign
  split
  next => exact List.suffix_cons _ _
  next => exact List.suffix_cons _ _
  next => exact List.suffix_refl _

theorem suffix_of_power? {power : ℤ} (h : power? cs = some (power, rest)) : rest <:+ cs := by
  unfold power? at h
  split at h
  next mark after =>
    split at h
    next =>
      dsimp only at h
      split at h
      next => cases h
      next =>
        obtain ⟨-, rfl⟩ := Prod.mk.inj (Option.some.inj h)
        exact ((List.dropWhile_suffix _).trans (suffix_sign after)).trans (List.suffix_cons _ _)
    next => cases h
  next => cases h

theorem suffix_splitMinus (cs : List Char) : (splitMinus cs).2 <:+ cs := by
  unfold splitMinus
  split
  next => exact List.suffix_cons _ _
  next => exact List.suffix_refl _

/-- A value that was read. -/
structure Wrought (v : Value) : Prop where
  plain : Plain v
  legible : isLegible v = true

theorem wrought_of_readNumber (h : readNumber cs = .ok (v, rest)) : Wrought v ∧ rest <:+ cs := by
  unfold readNumber at h
  dsimp only at h
  have hminus := suffix_splitMinus cs
  cases hwhole : wholeDigits? (splitMinus cs).2 with
  | none =>
      rw [hwhole] at h
      cases h
  | some pair =>
      obtain ⟨whole, after⟩ := pair
      obtain ⟨hafter, hdigits⟩ := suffix_of_wholeDigits? hwhole
      have hplaces := ((suffix_places after).trans hafter).trans hminus
      rw [hwhole] at h
      dsimp only at h
      cases hpower : power? (places after).2 with
      | some pair =>
          obtain ⟨power, last⟩ := pair
          rw [hpower] at h
          obtain ⟨rfl, rfl⟩ := Prod.mk.inj (Except.ok.inj h)
          exact ⟨⟨.float _, rfl⟩, (suffix_of_power? hpower).trans hplaces⟩
      | none =>
          rw [hpower] at h
          dsimp only at h
          split at h
          next =>
            split at h
            next => cases h
            next hcount =>
              obtain ⟨rfl, rfl⟩ := Prod.mk.inj (Except.ok.inj h)
              refine ⟨⟨.int _, (isLegible_int _).mpr ?_⟩, hplaces⟩
              rw [Legible, Double.natAbs_signed]
              exact (Text.ofDigits_lt hdigits).trans_le
                (Nat.pow_le_pow_right (by decide) (not_lt.mp hcount))
          next =>
            obtain ⟨rfl, rfl⟩ := Prod.mk.inj (Except.ok.inj h)
            exact ⟨⟨.float _, rfl⟩, hplaces⟩

end Numbers

/-! ## Values -/

section Values

variable {cs rest : List Char} {c : Char} {v : Value} {items : List Value}
variable {entries filled : Entries}
variable {key : String} {fuel room : ℕ}

theorem wrought_nil : Wrought (.list []) := ⟨.list (by simp), rfl⟩

theorem wrought_empty : Wrought (.object []) :=
  ⟨.object List.nodup_nil (by simp [Table.keys]) (by simp), rfl⟩

theorem Wrought.cons (h : Wrought v) (hitems : Wrought (.list items)) :
    Wrought (.list (v :: items)) := by
  obtain ⟨⟨⟩, hlegible⟩ := hitems
  constructor
  · exact .list (by simpa using ⟨h.plain, ‹_›⟩)
  · simp only [isLegible, areLegible, h.legible, Bool.true_and] at hlegible ⊢
    exact hlegible

theorem Wrought.insert (h : Wrought v) (hkey : settledText key = key)
    (hentries : Wrought (.object entries)) : Wrought (.object (entries.insert key v)) := by
  obtain ⟨hplain, hlegible⟩ := hentries
  rw [isLegible, haveLegible_iff] at hlegible
  cases hplain with
  | object hnodup hkeys hvalues =>
      constructor
      · apply Plain.object (Table.nodup_keys_insert hnodup key v)
        · intro other hother
          rcases (Table.mem_keys_insert entries key other v).mp hother with rfl | hold
          · exact hkey
          · exact hkeys other hold
        · intro entry hentry
          rcases Table.mem_of_mem_insert hentry with rfl | hold
          · exact h.plain
          · exact hvalues entry hold
      · rw [isLegible, haveLegible_iff]
        intro entry hentry
        rcases Table.mem_of_mem_insert hentry with rfl | hold
        · exact h.legible
        · exact hlegible entry hold

theorem suffix_skipSpace (cs : List Char) : skipSpace cs <:+ cs := List.dropWhile_suffix _

theorem suffix_of_skipSpace (h : skipSpace cs = c :: rest) : rest <:+ cs :=
  (List.suffix_cons c rest).trans (h ▸ suffix_skipSpace cs)

theorem wrought_of_readWord? (h : readWord? cs = some (v, rest)) : Wrought v ∧ rest <:+ cs := by
  unfold readWord? at h
  obtain ⟨word, hword, heq⟩ := Option.map_eq_some_iff.mp h
  obtain ⟨rfl, rfl⟩ := Prod.mk.inj heq
  refine ⟨?_, List.drop_suffix _ _⟩
  have hmem := List.mem_of_find?_eq_some hword
  simp only [words, List.mem_cons, List.not_mem_nil, or_false] at hmem
  rcases hmem with rfl | rfl | rfl | rfl | rfl | rfl
  · exact ⟨.null, rfl⟩
  · exact ⟨.bool _, rfl⟩
  · exact ⟨.bool _, rfl⟩
  all_goals exact ⟨.float _, rfl⟩

/-- With so much fuel, what is read is wrought and ends where the rest begins. -/
structure Reader (fuel : ℕ) : Prop where
  value : ∀ {room cs v rest}, Halfless cs → readValue fuel room cs = .ok (v, rest) →
    Wrought v ∧ rest <:+ cs
  items : ∀ {room cs items rest}, Halfless cs → readItems fuel room cs = .ok (items, rest) →
    Wrought (.list items) ∧ rest <:+ cs
  entries : ∀ {room cs entries filled rest}, Halfless cs → Wrought (.object entries) →
    readEntries fuel room entries cs = .ok (filled, rest) → Wrought (.object filled) ∧ rest <:+ cs

-- One reading takes one unit of the fuel, and the readings inside it get what is left.
theorem Reader.value_succ (h : Reader fuel) (hcs : Halfless cs)
    (hread : readValue (fuel + 1) room cs = .ok (v, rest)) : Wrought v ∧ rest <:+ cs := by
  cases cs with
  | nil => cases hread
  | cons c cs =>
  have htail : cs <:+ c :: cs := List.suffix_cons _ _
  have hinner := (suffix_skipSpace cs).trans htail
  rw [readValue] at hread
  split at hread
  next =>
    obtain ⟨⟨text, after⟩, htext, hread⟩ := bind_eq_ok hread
    obtain ⟨rfl, rfl⟩ := Prod.mk.inj (Except.ok.inj hread)
    obtain ⟨hsettled, hrest⟩ := settledText_of_readText (hcs.suffix htail) htext
    exact ⟨⟨.text hsettled, rfl⟩, hrest.trans htail⟩
  split at hread
  next =>
    split at hread
    next => cases hread
    split at hread
    next after heq =>
      obtain ⟨rfl, rfl⟩ := Prod.mk.inj (Except.ok.inj hread)
      exact ⟨wrought_nil, (suffix_of_skipSpace heq).trans htail⟩
    next =>
      obtain ⟨⟨items, after⟩, hitems, hread⟩ := bind_eq_ok hread
      obtain ⟨rfl, rfl⟩ := Prod.mk.inj (Except.ok.inj hread)
      obtain ⟨hwrought, hrest⟩ := h.items (hcs.suffix hinner) hitems
      exact ⟨hwrought, hrest.trans hinner⟩
  split at hread
  next =>
    split at hread
    next => cases hread
    split at hread
    next after heq =>
      obtain ⟨rfl, rfl⟩ := Prod.mk.inj (Except.ok.inj hread)
      exact ⟨wrought_empty, (suffix_of_skipSpace heq).trans htail⟩
    next =>
      obtain ⟨⟨entries, after⟩, hentries, hread⟩ := bind_eq_ok hread
      obtain ⟨rfl, rfl⟩ := Prod.mk.inj (Except.ok.inj hread)
      obtain ⟨hwrought, hrest⟩ := h.entries (hcs.suffix hinner) wrought_empty hentries
      exact ⟨hwrought, hrest.trans hinner⟩
  split at hread
  next value after hword =>
    obtain ⟨rfl, rfl⟩ := Prod.mk.inj (Except.ok.inj hread)
    exact wrought_of_readWord? hword
  next => exact wrought_of_readNumber hread

theorem Reader.items_succ (h : Reader fuel) (hcs : Halfless cs)
    (hread : readItems (fuel + 1) room cs = .ok (items, rest)) :
    Wrought (.list items) ∧ rest <:+ cs := by
  rw [readItems] at hread
  obtain ⟨⟨item, after⟩, hitem, hread⟩ := bind_eq_ok hread
  obtain ⟨hwrought, hafter⟩ := h.value hcs hitem
  dsimp only at hread
  split at hread
  next last heq =>
    obtain ⟨rfl, rfl⟩ := Prod.mk.inj (Except.ok.inj hread)
    exact ⟨hwrought.cons wrought_nil, (suffix_of_skipSpace heq).trans hafter⟩
  next last heq =>
    have hlast : skipSpace last <:+ cs :=
      (suffix_skipSpace last).trans ((suffix_of_skipSpace heq).trans hafter)
    obtain ⟨⟨more, end'⟩, hmore, hread⟩ := bind_eq_ok hread
    obtain ⟨rfl, rfl⟩ := Prod.mk.inj (Except.ok.inj hread)
    obtain ⟨hitems, hrest⟩ := h.items (hcs.suffix hlast) hmore
    exact ⟨hwrought.cons hitems, hrest.trans hlast⟩
  next => cases hread

theorem Reader.entries_succ (h : Reader fuel) (hcs : Halfless cs)
    (hentries : Wrought (.object entries))
    (hread : readEntries (fuel + 1) room entries cs = .ok (filled, rest)) :
    Wrought (.object filled) ∧ rest <:+ cs := by
  cases cs with
  | nil => cases hread
  | cons quote cs =>
  have htail : cs <:+ quote :: cs := List.suffix_cons _ _
  rw [readEntries] at hread
  split at hread
  next => cases hread
  obtain ⟨⟨key, afterKey⟩, htext, hread⟩ := bind_eq_ok hread
  obtain ⟨hkey, hafterKey⟩ := settledText_of_readText (hcs.suffix htail) htext
  dsimp only at hread
  split at hread
  swap
  next => cases hread
  next afterColon hcolon =>
  have hvalueStart : skipSpace afterColon <:+ quote :: cs := (suffix_skipSpace _).trans
    (((suffix_of_skipSpace hcolon).trans hafterKey).trans htail)
  obtain ⟨⟨v, afterValue⟩, hvalue, hread⟩ := bind_eq_ok hread
  obtain ⟨hwrought, hafterValue⟩ := h.value (hcs.suffix hvalueStart) hvalue
  have hfilled := hwrought.insert hkey hentries
  have hend := hafterValue.trans hvalueStart
  dsimp only at hread
  split at hread
  next last heq =>
    obtain ⟨rfl, rfl⟩ := Prod.mk.inj (Except.ok.inj hread)
    exact ⟨hfilled, (suffix_of_skipSpace heq).trans hend⟩
  next last heq =>
    have hlast : skipSpace last <:+ quote :: cs :=
      (suffix_skipSpace last).trans ((suffix_of_skipSpace heq).trans hend)
    obtain ⟨hmore, hrest⟩ := h.entries (hcs.suffix hlast) hfilled hread
    exact ⟨hmore, hrest.trans hlast⟩
  next => cases hread

theorem reader (fuel : ℕ) : Reader fuel := by
  induction fuel with
  | zero =>
      constructor
      · intro room cs v rest _ h
        cases h
      · intro room cs items rest _ h
        cases h
      · intro room cs entries filled rest _ _ h
        cases h
  | succ fuel ih => exact ⟨ih.value_succ, ih.items_succ, ih.entries_succ⟩

/-- What is read of a text without halves is plain and can be written, unless it nests too
deep. -/
theorem wrought_of_read {s : String} (hs : Halfless s.toList) (h : read s = .ok v) : Wrought v := by
  unfold read at h
  cases hall : readAll s.toList with
  | error failure =>
      rw [hall] at h
      cases h
  | ok w =>
      rw [hall] at h
      obtain rfl := Except.ok.inj h
      unfold readAll at hall
      split at hall
      next => cases hall
      obtain ⟨⟨v, rest⟩, hread, hall⟩ := bind_eq_ok hall
      dsimp only at hall
      split at hall
      next =>
        obtain rfl := Except.ok.inj hall
        exact ((reader _).value (hs.suffix (suffix_skipSpace _)) hread).1
      next => cases hall

end Values

end CaseWorkflow.Json
