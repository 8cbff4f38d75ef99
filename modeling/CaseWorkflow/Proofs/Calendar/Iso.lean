import CaseWorkflow.Calendar.Clock
import CaseWorkflow.Calendar.Iso
import CaseWorkflow.Proofs.Json.Text
import CaseWorkflow.Proofs.Number.Digits

/-!
# Days, moments and their ISO 8601 texts

The text of a day is read as the day, and the text of a moment as the moment, at the same
distance from universal time or at none.  A distance of less than a second is the exception: it
is read as zero.
-/

namespace CaseWorkflow

/-- The distance from universal time is known, and no fraction of a second. -/
def Moment.Zoned (m : Moment) : Prop :=
  ∃ offset, m.offset = some offset ∧ (offset = 0 ∨ microsPerSecond ≤ offset.natAbs)

/-- A distance as it is read of its text. -/
def settledOffset (offset : ℤ) : ℤ := if offset.natAbs < microsPerSecond then 0 else offset

/-- The moment that is read of the texts of a moment. -/
def Moment.settled (m : Moment) : Moment where
  date := m.date
  time := m.time
  offset := m.offset.map settledOffset
  time_lt := m.time_lt
  offset_lt := by
    intro offset hoffset
    obtain ⟨shown, hshown, rfl⟩ := Option.map_eq_some_iff.mp (Option.mem_def.mp hoffset)
    have hlt := m.offset_lt shown hshown
    unfold settledOffset
    split <;> omega

theorem Moment.settled_eq {m : Moment} (h : m.offset = none ∨ m.Zoned) : m.settled = m := by
  have hoffset : m.offset.map settledOffset = m.offset := by
    rcases h with hnone | ⟨offset, hoffset, hdistance⟩
    · rw [hnone]
      rfl
    · rw [hoffset, Option.map_some, settledOffset]
      split
      · rw [hdistance.resolve_right (by omega)]
      · rfl
  obtain ⟨date, time, offset, htime, hlt⟩ := m
  simpa [settled] using hoffset

theorem Moment.of?_eq_some {date : Date} {time : ℕ} {offset : Option ℤ} {m : Moment}
    (h : Moment.of? date time offset = some m) : m.offset = offset := by
  unfold Moment.of? at h
  split at h
  swap
  · cases h
  cases offset with
  | none =>
      obtain rfl := Option.some.inj h
      rfl
  | some o =>
      dsimp only at h
      split at h
      · obtain rfl := Option.some.inj h
        rfl
      · cases h

theorem Moment.of?_parts (m : Moment) : Moment.of? m.date m.time m.offset = some m := by
  obtain ⟨date, time, offset, htime, hoffset⟩ := m
  cases offset with
  | none => exact dif_pos htime
  | some offset =>
      have hlt : offset.natAbs < microsPerDay := hoffset offset rfl
      simp only [Moment.of?, dif_pos htime, dif_pos hlt]

/-! ## Padded numbers -/

namespace Date

/-- The characters of a number with leading zeros. -/
def paddedChars (width n : ℕ) : List Char := (Nat.toDigits 10 n).leftpad width '0'

variable {width n : ℕ}

theorem toList_padded (width n : ℕ) : (padded width n).toList = paddedChars width n :=
  String.toList_ofList

theorem isDigit_paddedChars : ∀ c ∈ paddedChars width n, c.isDigit = true := by
  intro c hc
  rw [paddedChars, List.leftpad, List.mem_append] at hc
  rcases hc with hzero | hdigit
  · rw [List.eq_of_mem_replicate hzero]
    decide
  · exact toDigits_isDigit hdigit

theorem length_paddedChars (hwidth : 0 < width) (h : n < 10 ^ width) :
    (paddedChars width n).length = width := by
  have hlength := (Nat.length_toDigits_le_iff (b := 10) (by norm_num) hwidth).mpr h
  rw [paddedChars, List.leftpad, List.length_append, List.length_replicate]
  exact Nat.sub_add_cancel hlength

theorem ofDigits_paddedChars : Text.ofDigits (paddedChars width n) = n := by
  rw [paddedChars, List.leftpad, Text.ofDigits_append, Text.ofDigits_replicate_zero,
    Text.ofDigits_toDigits]
  simp

end Date

namespace Iso

/-! ## Bytes at positions -/

section Bytes

variable {cs rest digits : List Char} {c : Char} {position : ℕ}

theorem toNat_byteOf (h : c.toNat < 0x80) : (byteOf c).toNat = c.toNat := by
  rw [byteOf, Nat.toUInt8, UInt8.toNat_ofNat']
  omega

theorem isDigit_byteOf (h : c.isDigit = true) : isDigit (byteOf c) = true := by
  have hrange := Char.isDigit_iff_toNat.mp h
  rw [isDigit, toNat_byteOf (toNat_lt_of_isDigit h)]
  simpa using hrange

theorem byteOf_digit_ne {mark : Char} (hc : c.isDigit = true)
    (hmark : mark.toNat < 48 ∨ 57 < mark.toNat) (hascii : mark.toNat < 0x80) :
    (byteOf c == byteOf mark) = false := by
  have hrange : 48 ≤ c.toNat ∧ c.toNat ≤ 57 := Char.isDigit_iff_toNat.mp hc
  rw [beq_eq_false_iff_ne]
  intro heq
  have hnat := congrArg UInt8.toNat heq
  rw [toNat_byteOf (toNat_lt_of_isDigit hc), toNat_byteOf hascii] at hnat
  omega

theorem bytesOf_ascii {s : String} (h : Json.Ascii s.toList) :
    bytesOf s = s.toList.map byteOf := by
  rw [bytesOf]
  generalize s.toList = cs at h ⊢
  induction cs with
  | nil => rfl
  | cons c cs ih =>
      have hc := h c List.mem_cons_self
      have hsize : c.utf8Size = 1 := by
        rw [Char.utf8Size_eq_one_iff, UInt32.le_iff_toNat_le]
        exact Nat.le_of_lt_succ hc
      have hencoded : String.utf8EncodeChar c = [byteOf c] :=
        String.utf8EncodeChar_eq_singleton hsize
      have hrest := ih fun d hd => h d (List.mem_cons_of_mem c hd)
      rw [List.flatMap_cons, hencoded, List.map_cons, hrest]
      rfl

theorem at?_of_drop (h : cs.drop position = c :: rest) :
    at? (cs.map byteOf) position = byteOf c ∧ cs.drop (position + 1) = rest := by
  have hget : cs[position]? = some c := by
    rw [← List.head?_drop, h]
    rfl
  constructor
  · rw [at?, List.getD_eq_getElem?_getD, List.getElem?_map, hget]
    rfl
  · rw [← List.drop_drop, h, List.drop_one, List.tail_cons]

theorem at?_end (h : cs.drop position = []) : at? (cs.map byteOf) position = 0 := by
  have hlength := List.drop_eq_nil_iff.mp h
  rw [at?, List.getD_eq_getElem?_getD, List.getElem?_map, List.getElem?_eq_none hlength]
  rfl

theorem digits?_succ (bytes : Bytes) (position count : ℕ) :
    digits? bytes position (count + 1) = (digits? bytes position count).bind fun value =>
      if isDigit (at? bytes (position + count)) then
        some (value * 10 + ((at? bytes (position + count)).toNat - 48)) else none := by
  rw [digits?, List.range_succ, List.foldl_append]
  rfl

theorem digits?_of_drop (hdigits : ∀ c ∈ digits, c.isDigit = true)
    (h : cs.drop position = digits ++ rest) :
    digits? (cs.map byteOf) position digits.length = some (Text.ofDigits digits) ∧
      cs.drop (position + digits.length) = rest := by
  constructor
  · induction digits using List.reverseRecOn generalizing rest with
    | nil => rfl
    | append_singleton digits c ih =>
        rw [List.append_assoc] at h
        have hbefore := ih (fun d hd => hdigits d (List.mem_append_left _ hd)) h
        have hafter : cs.drop (position + digits.length) = c :: rest := by
          rw [← List.drop_drop, h, List.drop_left]
          rfl
        have hc := hdigits c (by simp)
        obtain ⟨hat, -⟩ := at?_of_drop hafter
        rw [List.length_append, List.length_singleton, digits?_succ, hbefore, Option.bind_some, hat,
          if_pos (isDigit_byteOf hc), toNat_byteOf (toNat_lt_of_isDigit hc),
          Text.ofDigits_append_singleton]
  · rw [← List.drop_drop, h, List.drop_left]

theorem digits?_padded {width n : ℕ} (hwidth : 0 < width) (hn : n < 10 ^ width)
    (h : cs.drop position = Date.paddedChars width n ++ rest) :
    digits? (cs.map byteOf) position width = some n ∧ cs.drop (position + width) = rest := by
  have hread := digits?_of_drop Date.isDigit_paddedChars h
  rwa [Date.length_paddedChars hwidth hn, Date.ofDigits_paddedChars] at hread

theorem at?_padded {width n : ℕ} (hwidth : 0 < width) (hn : n < 10 ^ width)
    (h : cs.drop position = Date.paddedChars width n ++ rest) :
    ∃ c, c.isDigit = true ∧ at? (cs.map byteOf) position = byteOf c := by
  have hlength := Date.length_paddedChars hwidth hn
  have hdigits : ∀ c ∈ Date.paddedChars width n, c.isDigit = true := Date.isDigit_paddedChars
  generalize Date.paddedChars width n = digits at h hlength hdigits
  cases digits with
  | nil =>
      rw [List.length_nil] at hlength
      omega
  | cons c digits => exact ⟨c, hdigits c List.mem_cons_self, (at?_of_drop h).1⟩

end Bytes

/-! ## Times of day and distances -/

section Clocks

open Date

variable {cs rest : List Char} {position hour minute second micros : ℕ}

theorem clock?_minutes (hhour : hour < 100) (hminute : minute < 100)
    (h : cs.drop position = paddedChars 2 hour ++ ':' :: (paddedChars 2 minute ++ [])) :
    clock? (cs.map byteOf) position (position + 5) = some ⟨hour, minute, 0, 0, false⟩ := by
  obtain ⟨hhourAt, hrest⟩ := digits?_padded (by norm_num) hhour h
  obtain ⟨hcolon, hrest⟩ := at?_of_drop hrest
  obtain ⟨hminuteAt, hrest⟩ := digits?_padded (by norm_num) hminute hrest
  have hend := at?_end hrest
  have hmark : isFractionMark (byteOf ':') = false := by decide
  unfold clock?
  simp only [hhourAt, hcolon, hmark, Option.bind_eq_bind, Option.bind_some, beq_self_eq_true,
    if_true, if_neg (show ¬position + 5 ≤ position + 2 + 1 by omega), Bool.false_eq_true,
    if_false, hminuteAt, hend, if_pos (show position + 5 ≤ position + 2 + 1 + 2 + 1 by omega)]
  rfl

theorem clock?_seconds (hhour : hour < 100) (hminute : minute < 100) (hsecond : second < 100)
    (h : cs.drop position = paddedChars 2 hour ++ ':' :: (paddedChars 2 minute
      ++ ':' :: (paddedChars 2 second ++ rest))) :
    clock? (cs.map byteOf) position (position + 8)
      = some ⟨hour, minute, second, 0, at? (cs.map byteOf) (position + 8) != 0⟩ := by
  obtain ⟨hhourAt, hrest⟩ := digits?_padded (by norm_num) hhour h
  obtain ⟨hcolon, hrest⟩ := at?_of_drop hrest
  obtain ⟨hminuteAt, hrest⟩ := digits?_padded (by norm_num) hminute hrest
  obtain ⟨hcolon', hrest⟩ := at?_of_drop hrest
  obtain ⟨hsecondAt, hrest⟩ := digits?_padded (by norm_num) hsecond hrest
  have hmark : isFractionMark (byteOf ':') = false := by decide
  unfold clock?
  simp only [hhourAt, hcolon, hmark, Option.bind_eq_bind, Option.bind_some, beq_self_eq_true,
    if_true, if_neg (show ¬position + 8 ≤ position + 2 + 1 by omega), Bool.false_eq_true,
    if_false, hminuteAt, if_neg (show ¬position + 8 ≤ position + 2 + 1 + 2 + 1 by omega), hcolon',
    bne_self_eq_false, Bool.and_false, hsecondAt,
    if_pos (show position + 8 ≤ position + 2 + 1 + 2 + 1 + 2 + 1 by omega)]
  rfl

theorem clock?_fraction (hhour : hour < 100) (hminute : minute < 100) (hsecond : second < 100)
    (hmicros : micros < 1000000)
    (h : cs.drop position = paddedChars 2 hour ++ ':' :: (paddedChars 2 minute
      ++ ':' :: (paddedChars 2 second ++ '.' :: (paddedChars 6 micros ++ rest)))) :
    clock? (cs.map byteOf) position (position + 15)
      = some
        ⟨hour, minute, second, micros, ((rest.map byteOf).dropWhile isDigit).headD 0 != 0⟩ := by
  obtain ⟨hhourAt, hrest⟩ := digits?_padded (by norm_num) hhour h
  obtain ⟨hcolon, hrest⟩ := at?_of_drop hrest
  obtain ⟨hminuteAt, hrest⟩ := digits?_padded (by norm_num) hminute hrest
  obtain ⟨hcolon', hrest⟩ := at?_of_drop hrest
  obtain ⟨hsecondAt, hrest⟩ := digits?_padded (by norm_num) hsecond hrest
  obtain ⟨hpoint, hrest⟩ := at?_of_drop hrest
  obtain ⟨hmicrosAt, hrest⟩ := digits?_padded (by norm_num) hmicros hrest
  have hmark : isFractionMark (byteOf ':') = false := by decide
  have hmark' : isFractionMark (byteOf '.') = true := by decide
  have hcount : min 6 (position + 15 - (position + 2 + 1 + 2 + 1 + 2 + 1)) = 6 := by omega
  unfold clock?
  simp only [hhourAt, hcolon, hmark, Option.bind_eq_bind, Option.bind_some, beq_self_eq_true,
    if_true, if_neg (show ¬position + 15 ≤ position + 2 + 1 by omega), Bool.false_eq_true,
    if_false, hminuteAt, if_neg (show ¬position + 15 ≤ position + 2 + 1 + 2 + 1 by omega), hcolon',
    bne_self_eq_false, Bool.and_false, hsecondAt,
    if_neg (show ¬position + 15 ≤ position + 2 + 1 + 2 + 1 + 2 + 1 by omega), hpoint, hmark',
    Bool.true_or, fraction?, hcount, hmicrosAt, ← List.map_drop, hrest]
  simp

/-- A fraction of a second, where there is one. -/
def fractionChars (micros : ℕ) : List Char := if micros = 0 then [] else '.' :: paddedChars 6 micros

/-- Hours, minutes and seconds, then the fraction. -/
def clockChars (hour minute second micros : ℕ) : List Char :=
  paddedChars 2 hour ++ ':' :: (paddedChars 2 minute ++ ':' :: (paddedChars 2 second
    ++ fractionChars micros))

theorem clock?_clockChars (hhour : hour < 100) (hminute : minute < 100) (hsecond : second < 100)
    (hmicros : micros < 1000000)
    (h : cs.drop position = clockChars hour minute second micros ++ rest) :
    ∃ followed, clock? (cs.map byteOf) position
        (position + (clockChars hour minute second micros).length)
      = some ⟨hour, minute, second, micros, followed⟩ ∧ (rest = [] → followed = false) := by
  have hlength (n : ℕ) (hn : n < 100) : (paddedChars 2 n).length = 2 :=
    length_paddedChars (by norm_num) hn
  unfold clockChars fractionChars at h ⊢
  by_cases hzero : micros = 0
  · simp only [if_pos hzero, List.append_assoc, List.cons_append, List.append_nil] at h ⊢
    have hclock := clock?_seconds hhour hminute hsecond h
    refine ⟨at? (cs.map byteOf) (position + 8) != 0, ?_, fun hrest => ?_⟩
    · simp only [List.length_append, List.length_cons, hlength _ hhour, hlength _ hminute,
        hlength _ hsecond]
      rw [hzero]
      exact hclock
    · obtain ⟨-, hnext⟩ := digits?_padded (by norm_num) hhour h
      obtain ⟨-, hnext⟩ := at?_of_drop hnext
      obtain ⟨-, hnext⟩ := digits?_padded (by norm_num) hminute hnext
      obtain ⟨-, hnext⟩ := at?_of_drop hnext
      obtain ⟨-, hnext⟩ := digits?_padded (by norm_num) hsecond hnext
      rw [show position + 8 = position + 2 + 1 + 2 + 1 + 2 from rfl, at?_end (hnext.trans hrest)]
      rfl
  · simp only [if_neg hzero, List.append_assoc, List.cons_append] at h ⊢
    have hclock := clock?_fraction hhour hminute hsecond hmicros h
    refine ⟨((rest.map byteOf).dropWhile isDigit).headD 0 != 0, ?_, fun hrest => ?_⟩
    · simp only [List.length_append, List.length_cons, hlength _ hhour, hlength _ hminute,
        hlength _ hsecond, length_paddedChars (by norm_num : 0 < 6) hmicros]
      exact hclock
    · rw [hrest]
      rfl

theorem zoneMark_clockChars :
    ∀ c ∈ clockChars hour minute second micros, isZoneMark (byteOf c) = false := by
  have hdigit : ∀ c : Char, c.isDigit = true → isZoneMark (byteOf c) = false := by
    intro c hc
    rw [isZoneMark, byteOf_digit_ne hc (by decide) (by decide),
      byteOf_digit_ne hc (by decide) (by decide), byteOf_digit_ne hc (by decide) (by decide)]
    rfl
  intro c hc
  unfold clockChars fractionChars at hc
  simp only [List.mem_append, List.mem_cons] at hc
  rcases hc with hc | rfl | hc | rfl | hc | hc
  · exact hdigit c (isDigit_paddedChars c hc)
  · decide
  · exact hdigit c (isDigit_paddedChars c hc)
  · decide
  · exact hdigit c (isDigit_paddedChars c hc)
  · split at hc
    · cases hc
    · rcases List.mem_cons.mp hc with rfl | hc
      · decide
      · exact hdigit c (isDigit_paddedChars c hc)

/-- Hours and minutes, with seconds and a fraction where they are not zero. -/
def distanceChars (hour minute second micros : ℕ) : List Char :=
  if second = 0 ∧ micros = 0 then paddedChars 2 hour ++ ':' :: paddedChars 2 minute
  else clockChars hour minute second micros

theorem clock?_distanceChars (hhour : hour < 100) (hminute : minute < 100) (hsecond : second < 100)
    (hmicros : micros < 1000000)
    (h : cs.drop position = distanceChars hour minute second micros) :
    clock? (cs.map byteOf) position cs.length = some ⟨hour, minute, second, micros, false⟩ := by
  have hlength : cs.length = position + (distanceChars hour minute second micros).length := by
    have hdropped := congrArg List.length h
    rw [List.length_drop] at hdropped
    have hne : 0 < (distanceChars hour minute second micros).length := by
      unfold distanceChars clockChars
      split <;> simp
    omega
  unfold distanceChars at h hlength
  split at h
  next hwhole =>
    rw [if_pos hwhole, List.length_append, List.length_cons, length_paddedChars (by norm_num) hhour,
      length_paddedChars (by norm_num) hminute] at hlength
    rw [hlength, hwhole.1, hwhole.2]
    exact clock?_minutes hhour hminute (by rw [h, List.append_nil])
  next hpart =>
    rw [if_neg hpart] at hlength
    have hnothing : cs.drop position = clockChars hour minute second micros ++ [] := by
      rw [h, List.append_nil]
    obtain ⟨followed, hclock, hend⟩ := clock?_clockChars hhour hminute hsecond hmicros hnothing
    rw [hlength, hclock, hend rfl]

end Clocks

/-! ## Whole texts -/

section Moments

open Date

variable {cs rest : List Char} {position : ℕ} {m : Moment}

theorem daysInMonth_le (year month : ℕ) : daysInMonth year month ≤ 31 := by
  unfold daysInMonth
  split_ifs <;> omega

def dateChars (d : Date) : List Char :=
  paddedChars 4 d.year ++ '-' :: (paddedChars 2 d.month ++ '-' :: paddedChars 2 d.day)

theorem length_dateChars (d : Date) : (dateChars d).length = 10 := by
  obtain ⟨⟨-, hyear⟩, ⟨-, hmonth⟩, -, hday⟩ := d.valid
  have hshort := daysInMonth_le d.year d.month
  have hlength (width n : ℕ) (hwidth : 0 < width) (hn : n < 10 ^ width) :=
    length_paddedChars hwidth hn
  simp only [dateChars, List.length_append, List.length_cons,
    hlength 4 d.year (by norm_num) (by omega), hlength 2 d.month (by norm_num) (by omega),
    hlength 2 d.day (by norm_num) (by omega)]

theorem dayOf?_dateChars {d : Date} (length : ℕ) (h : cs = dateChars d ++ rest) :
    dayOf? (cs.map byteOf) length = some d ∧ separatorOf (cs.map byteOf) = 10 ∧
      cs.drop 10 = rest := by
  obtain ⟨⟨-, hyear⟩, ⟨-, hmonth⟩, -, hday⟩ := d.valid
  have hshort := daysInMonth_le d.year d.month
  have hstart : cs.drop 0 = paddedChars 4 d.year ++ '-' :: (paddedChars 2 d.month
      ++ '-' :: (paddedChars 2 d.day ++ rest)) := by
    rw [List.drop_zero, h, dateChars]
    simp
  obtain ⟨hyearAt, hrest⟩ := digits?_padded (by norm_num) (by omega) hstart
  obtain ⟨hhyphen, hrest⟩ := at?_of_drop hrest
  obtain ⟨hmonthAt, hrest'⟩ := digits?_padded (by norm_num) (by omega) hrest
  obtain ⟨hhyphen', hrest'⟩ := at?_of_drop hrest'
  obtain ⟨hdayAt, hrest'⟩ := digits?_padded (by norm_num) (by omega) hrest'
  have hlength : (cs.map byteOf).length ≠ 7 := by
    rw [List.length_map, h, List.length_append, length_dateChars]
    omega
  have hweek : (at? (cs.map byteOf) 5 == byteOf 'W') = false := by
    obtain ⟨c, hc, hat⟩ := at?_padded (by norm_num) (by omega) hrest
    rw [show 5 = 0 + 4 + 1 from rfl, hat]
    exact byteOf_digit_ne hc (by decide) (by decide)
  simp only [Nat.zero_add, Nat.reduceAdd] at hyearAt hhyphen hmonthAt hhyphen' hdayAt
  refine ⟨?_, ?_, hrest'⟩
  · unfold dayOf?
    simp only [hyearAt, hhyphen, Option.bind_eq_bind, Option.bind_some, beq_self_eq_true, if_true,
      hweek, Bool.false_eq_true, if_false, hmonthAt, hhyphen', bne_self_eq_false, Bool.and_false,
      hdayAt, Nat.reduceAdd]
    rw [Date.of?, dif_pos d.valid]
  · unfold separatorOf
    simp only [if_neg hlength, hhyphen, beq_self_eq_true, if_true, hweek, Bool.false_eq_true,
      if_false]

/-- The mark that stands before a distance from universal time. -/
def signChar (offset : ℤ) : Char := if offset < 0 then '-' else '+'

/-- A distance from universal time, by its parts. -/
def offsetChars (offset : ℤ) : List Char :=
  let seconds := offset.natAbs / microsPerSecond
  signChar offset :: distanceChars (seconds / 3600) (seconds / 60 % 60) (seconds % 60)
    (offset.natAbs % microsPerSecond)

/-- The distance from universal time, where there is one. -/
def zoneChars (offset : Option ℤ) : List Char := (offset.map offsetChars).getD []

theorem toList_dateText (d : Date) : d.text.toList = dateChars d := by
  simp [Date.text, dateChars, toList_padded]

theorem toList_offsetText (offset : ℤ) :
    (Moment.offsetText offset).toList = offsetChars offset := by
  have hsign : (if offset < 0 then "-" else "+").toList = [signChar offset] := by
    unfold signChar
    split <;> rfl
  simp only [Moment.offsetText, offsetChars, distanceChars, clockChars, fractionChars,
    String.toList_append, hsign, toList_padded]
  split_ifs <;> simp_all [toList_padded]

theorem toList_textWith {separator : String} {mark : Char} (hmark : separator.toList = [mark])
    (m : Moment) : (m.textWith separator).toList = dateChars m.date ++ mark ::
      (clockChars m.hour m.minute m.second m.microsecond ++ zoneChars m.offset) := by
  have hzone : ((m.offset.map Moment.offsetText).getD "").toList = zoneChars m.offset := by
    cases m.offset with
    | none => rfl
    | some offset => exact toList_offsetText offset
  simp only [Moment.textWith, Moment.clockText, hzone, hmark, String.toList_append, toList_padded,
    toList_dateText, clockChars, fractionChars]
  split_ifs <;> simp [toList_padded]

/-- The characters of which the texts of moments are made. -/
def isIsoChar (c : Char) : Bool := c.isDigit || c ∈ ['-', 'T', ' ', ':', '.', '+']

@[simp] theorem all_paddedChars (width n : ℕ) : (paddedChars width n).all isIsoChar = true := by
  rw [List.all_eq_true]
  intro c hc
  simp [isIsoChar, isDigit_paddedChars c hc]

@[simp] theorem all_clockChars (hour minute second micros : ℕ) :
    (clockChars hour minute second micros).all isIsoChar = true := by
  have hpoint : isIsoChar '.' = true := by decide
  have hcolon : isIsoChar ':' = true := by decide
  unfold clockChars fractionChars
  split_ifs <;> simp [hpoint, hcolon]

@[simp] theorem all_dateChars (d : Date) : (dateChars d).all isIsoChar = true := by
  have hhyphen : isIsoChar '-' = true := by decide
  simp [dateChars, hhyphen]

@[simp] theorem all_zoneChars (offset : Option ℤ) : (zoneChars offset).all isIsoChar = true := by
  have hcolon : isIsoChar ':' = true := by decide
  cases offset with
  | none => rfl
  | some offset =>
      have hsign : isIsoChar (signChar offset) = true := by
        unfold signChar
        split <;> decide
      simp only [zoneChars, Option.map_some, Option.getD_some, offsetChars, distanceChars]
      split_ifs <;> simp [hsign, hcolon]

theorem ascii_of_all_isIsoChar {cs : List Char} (h : cs.all isIsoChar = true) : Json.Ascii cs := by
  intro c hc
  have hchar := List.all_eq_true.mp h c hc
  simp only [isIsoChar, Bool.or_eq_true, decide_eq_true_eq, List.mem_cons, List.not_mem_nil,
    or_false] at hchar
  rcases hchar with hdigit | rfl | rfl | rfl | rfl | rfl | rfl
  · exact toNat_lt_of_isDigit hdigit
  all_goals decide

theorem ascii_dateText (d : Date) : Json.Ascii d.text.toList :=
  ascii_of_all_isIsoChar (by rw [toList_dateText, all_dateChars])

section TextWith

variable {separator : String} {mark : Char}

theorem all_textWith (hmark : separator.toList = [mark]) (hchar : isIsoChar mark = true)
    (m : Moment) : (m.textWith separator).toList.all isIsoChar = true := by
  simp [toList_textWith hmark, hchar]

theorem ascii_textWith (hmark : separator.toList = [mark]) (hchar : isIsoChar mark = true)
    (m : Moment) : Json.Ascii (m.textWith separator).toList :=
  ascii_of_all_isIsoChar (all_textWith hmark hchar m)

theorem withPlainZone_textWith (hmark : separator.toList = [mark]) (hchar : isIsoChar mark = true)
    (m : Moment) : withPlainZone (m.textWith separator) = m.textWith separator := by
  have hall := List.all_eq_true.mp (all_textWith hmark hchar m)
  generalize m.textWith separator = s at hall
  have hplain : ∀ c ∈ s.toList, (c == 'Z') = false := by
    intro c hc
    rw [beq_eq_false_iff_ne]
    rintro rfl
    exact absurd (hall _ hc) (by decide)
  have hsame : (s.toList.flatMap fun c => if c == 'Z' then "+00:00".toList else [c])
      = s.toList := by
    rw [List.flatMap_congr fun c hc => if_neg (Bool.eq_false_iff.mp (hplain c hc))]
    exact List.flatMap_singleton' _
  rw [withPlainZone, hsame, String.ofList_toList]

end TextWith

theorem time?_clock (m : Moment) (followed : Bool) :
    Clock.time? ⟨m.hour, m.minute, m.second, m.microsecond, followed⟩ = some m.time := by
  have hday := m.time_lt
  have hparts : (m.hour < 24 ∧ m.minute < 60 ∧ m.second < 60)
      ∧ (m.hour * 3600 + m.minute * 60 + m.second) * microsPerSecond + m.microsecond = m.time := by
    simp only [Moment.hour, Moment.minute, Moment.second, Moment.microsecond, microsPerDay,
      microsPerSecond] at hday ⊢
    omega
  rw [Clock.time?, if_pos (by simpa [and_assoc] using hparts.1)]
  exact congrArg some hparts.2

/-- The parts of a distance make the distance, unless it is a fraction of a second. -/
theorem offset_clock (offset : ℤ) (followed : Bool) :
    Clock.offset ⟨offset.natAbs / microsPerSecond / 3600, offset.natAbs / microsPerSecond / 60 % 60,
      offset.natAbs / microsPerSecond % 60, offset.natAbs % microsPerSecond, followed⟩
        (decide (offset < 0)) = settledOffset offset := by
  have hseconds : offset.natAbs / microsPerSecond / 3600 * 3600
      + offset.natAbs / microsPerSecond / 60 % 60 * 60 + offset.natAbs / microsPerSecond % 60
        = offset.natAbs / microsPerSecond := by omega
  simp only [Clock.offset, Clock.seconds, hseconds, decide_eq_true_eq, settledOffset]
  simp only [microsPerSecond]
  split_ifs <;> omega

theorem isZoneMark_signChar (offset : ℤ) : isZoneMark (byteOf (signChar offset)) = true := by
  unfold signChar
  split <;> decide

theorem signChar_ne_universal (offset : ℤ) : (byteOf (signChar offset) == byteOf 'Z') = false := by
  unfold signChar
  split <;> decide

theorem signChar_eq_minus (offset : ℤ) :
    (byteOf (signChar offset) == byteOf '-') = decide (offset < 0) := by
  unfold signChar
  split
  next hneg =>
    rw [decide_eq_true hneg]
    decide
  next hpos =>
    rw [decide_eq_false hpos]
    decide

theorem clock_lt (m : Moment) :
    m.hour < 100 ∧ m.minute < 100 ∧ m.second < 100 ∧ m.microsecond < 1000000 := by
  have hday := m.time_lt
  simp only [microsPerDay, microsPerSecond] at hday
  simp only [Moment.hour, Moment.minute, Moment.second, Moment.microsecond, microsPerSecond]
  omega

/-- The time of day ends at the first mark of a zone, and none of its own characters is one. -/
theorem takeWhile_clockChars {hour minute second micros : ℕ} {offset : Option ℤ}
    (h : cs.drop position = clockChars hour minute second micros ++ zoneChars offset) :
    ((cs.map byteOf).drop position).takeWhile (fun b => !isZoneMark b)
      = (clockChars hour minute second micros).map byteOf := by
  have hnone : ∀ b ∈ (clockChars hour minute second micros).map byteOf,
      (!isZoneMark b) = true := by
    intro b hb
    obtain ⟨c, hc, rfl⟩ := List.mem_map.mp hb
    rw [zoneMark_clockChars c hc]
    rfl
  rw [← List.map_drop, h, List.map_append, List.takeWhile_append_of_pos hnone]
  cases offset with
  | none => exact List.append_nil _
  | some offset =>
      rw [zoneChars, Option.map_some, Option.getD_some, offsetChars, List.map_cons,
        List.takeWhile_cons_of_neg (by simp [isZoneMark_signChar]), List.append_nil]

theorem timeOf?_naive (h : cs.drop position = clockChars m.hour m.minute m.second m.microsecond) :
    timeOf? (cs.map byteOf) position = some (m.time, none) := by
  obtain ⟨hhour, hminute, hsecond, hmicros⟩ := clock_lt m
  have hnothing : cs.drop position
      = clockChars m.hour m.minute m.second m.microsecond ++ zoneChars none := by
    rw [h]
    exact (List.append_nil _).symm
  have htake := takeWhile_clockChars hnothing
  obtain ⟨followed, hclock, hend⟩ := clock?_clockChars hhour hminute hsecond hmicros hnothing
  obtain rfl := hend rfl
  have hlength : position + (clockChars m.hour m.minute m.second m.microsecond).length
      = cs.length := by
    have hdropped := congrArg List.length h
    have hne : 0 < (clockChars m.hour m.minute m.second m.microsecond).length := by
      simp [clockChars]
    rw [List.length_drop] at hdropped
    omega
  rw [hlength] at hclock
  unfold timeOf?
  simp only [htake, List.length_map, hlength, hclock, Option.bind_eq_bind, Option.bind_some,
    if_true, Bool.false_eq_true, if_false, time?_clock]
  rfl

theorem timeOf?_zoned {offset : ℤ} (hoffset : m.offset = some offset)
    (h : cs.drop position = clockChars m.hour m.minute m.second m.microsecond
      ++ offsetChars offset) :
    timeOf? (cs.map byteOf) position = some (m.time, some (settledOffset offset)) := by
  have hzone := m.offset_lt offset hoffset
  have hparts : offset.natAbs / microsPerSecond / 3600 < 100
      ∧ offset.natAbs % microsPerSecond < 1000000 := by
    simp only [microsPerDay, microsPerSecond] at hzone ⊢
    omega
  obtain ⟨hhour, hminute, hsecond, hmicros⟩ := clock_lt m
  have hwhole : cs.drop position
      = clockChars m.hour m.minute m.second m.microsecond ++ zoneChars (some offset) := h
  have htake := takeWhile_clockChars hwhole
  obtain ⟨followed, hclock, -⟩ := clock?_clockChars hhour hminute hsecond hmicros h
  generalize clockChars m.hour m.minute m.second m.microsecond = chars at h hclock htake
  have hsign : cs.drop (position + chars.length) = offsetChars offset := by
    rw [← List.drop_drop, h, List.drop_left]
  obtain ⟨hat, hdistanceAt⟩ := at?_of_drop hsign
  have hread := clock?_distanceChars hparts.1 (by omega) (by omega) hparts.2 hdistanceAt
  have hinside : position + chars.length ≠ cs.length := by
    intro hend
    rw [hend, List.drop_length] at hsign
    exact absurd hsign (by simp [offsetChars])
  unfold timeOf?
  simp only [htake, List.length_map, hclock, Option.bind_eq_bind, Option.bind_some, if_neg hinside,
    hat, signChar_ne_universal, Bool.false_eq_true, if_false, hread, time?_clock,
    signChar_eq_minus, offset_clock]
  rfl

/-- The time of day and the distance are read from where the time begins. -/
theorem timeOf?_zoneChars (h : cs.drop position
    = clockChars m.hour m.minute m.second m.microsecond ++ zoneChars m.offset) :
    timeOf? (cs.map byteOf) position = some (m.time, m.offset.map settledOffset) := by
  cases hoffset : m.offset with
  | none =>
      rw [hoffset] at h
      exact timeOf?_naive (h.trans (List.append_nil _))
  | some offset =>
      rw [hoffset] at h
      exact timeOf?_zoned hoffset h

theorem bytesOf_dateText (d : Date) : bytesOf d.text = (dateChars d).map byteOf := by
  rw [bytesOf_ascii (ascii_dateText d), toList_dateText]

theorem readDate?_dateText (d : Date) : readDate? d.text = some d := by
  obtain ⟨hday, -, -⟩ := dayOf?_dateChars 10 (List.append_nil (dateChars d)).symm
  simp only [readDate?, bytesOf_dateText, List.length_map, length_dateChars]
  exact hday

section ReadTextWith

variable {separator : String} {mark : Char}

/-- The text of a moment is too long for the text of a day. -/
theorem lt_length_textWith (hmark : separator.toList = [mark]) (hchar : isIsoChar mark = true)
    (m : Moment) : 10 < (bytesOf (m.textWith separator)).length := by
  rw [bytesOf_ascii (ascii_textWith hmark hchar m), List.length_map, toList_textWith hmark,
    List.length_append, length_dateChars, List.length_cons]
  omega

theorem readDate?_textWith (hmark : separator.toList = [mark]) (hchar : isIsoChar mark = true)
    (m : Moment) : readDate? (m.textWith separator) = none := by
  have hlong := lt_length_textWith hmark hchar m
  unfold readDate?
  dsimp only
  rw [if_neg (by omega)]

theorem readZoned?_textWith (hmark : separator.toList = [mark]) (hchar : isIsoChar mark = true)
    (m : Moment) : readZoned? (m.textWith separator) = some m.settled := by
  have hascii := ascii_textWith hmark hchar m
  have hlong := lt_length_textWith hmark hchar m
  rw [bytesOf_ascii hascii] at hlong
  obtain ⟨hday, hseparator, hrest⟩ := dayOf?_dateChars 10 (toList_textWith hmark m)
  obtain ⟨hat, hrest⟩ := at?_of_drop hrest
  have htime := timeOf?_zoneChars hrest
  have hwidth : widthOf (byteOf mark) = 1 := by
    have hmem : mark ∈ (m.textWith separator).toList := by simp [toList_textWith hmark]
    rw [widthOf, if_pos (UInt8.lt_iff_toNat_lt.mpr (by
      rw [toNat_byteOf (hascii mark hmem)]
      exact hascii mark hmem))]
  rw [readZoned?, withPlainZone_textWith hmark hchar]
  unfold readMoment?
  simp only [bytesOf_ascii hascii, hseparator, hday, Option.bind_eq_bind,
    Option.bind_some, hat, hwidth, htime,
    if_neg (show ¬((m.textWith separator).toList.map byteOf).length < 7 by omega),
    if_neg (show ¬((m.textWith separator).toList.map byteOf).length ≤ 10 by omega)]
  exact Moment.of?_parts m.settled

end ReadTextWith

theorem ascii_isoText (m : Moment) : Json.Ascii m.isoText.toList :=
  ascii_textWith rfl (by decide) m

theorem ascii_text (m : Moment) : Json.Ascii m.text.toList :=
  ascii_textWith rfl (by decide) m

theorem readZoned?_isoText (m : Moment) : readZoned? m.isoText = some m.settled :=
  readZoned?_textWith rfl (by decide) m

end Moments

/-! ## Moments that were read -/

theorem offset_eq_zero_or_le (c : Iso.Clock) (negative : Bool) :
    c.offset negative = 0 ∨ microsPerSecond ≤ (c.offset negative).natAbs := by
  unfold Clock.offset
  dsimp only
  have hsecond (n : ℕ) (hn : n ≠ 0) : microsPerSecond ≤ n * microsPerSecond :=
    Nat.le_mul_of_pos_left _ (Nat.pos_of_ne_zero hn)
  split_ifs with hzero hnegative
  · exact .inl rfl
  all_goals
    have := hsecond _ hzero
    omega

theorem offset_of_timeOf? {bytes : Bytes} {position time : ℕ} {offset : ℤ}
    (h : timeOf? bytes position = some (time, some offset)) :
    offset = 0 ∨ microsPerSecond ≤ offset.natAbs := by
  unfold timeOf? at h
  simp only [Option.bind_eq_bind, Option.bind_eq_some_iff] at h
  obtain ⟨clock, -, h⟩ := h
  split_ifs at h with hend hfollowed huniversal hfollowed'
  · simp [Option.bind_eq_some_iff] at h
  · simp [Option.bind_eq_some_iff] at h
    exact .inl h.2.symm
  · obtain ⟨distance, -, h⟩ := Option.bind_eq_some_iff.mp h
    split_ifs at h
    obtain ⟨_, -, h⟩ := Option.bind_eq_some_iff.mp h
    obtain rfl : distance.offset _ = offset := by simpa using (Prod.mk.inj (Option.some.inj h)).2
    exact offset_eq_zero_or_le _ _

/-- A distance that was read is no fraction of a second. -/
theorem zoned_of_readMoment? {s : String} {m : Moment} (h : readMoment? s = some m) :
    m.offset = none ∨ m.Zoned := by
  unfold readMoment? at h
  dsimp only at h
  split at h
  · cases h
  obtain ⟨date, -, h⟩ := Option.bind_eq_some_iff.mp h
  split at h
  · obtain rfl := Option.some.inj h
    exact .inl rfl
  obtain ⟨⟨time, offset⟩, htime, h⟩ := Option.bind_eq_some_iff.mp h
  have hoffset := Moment.of?_eq_some h
  cases offset with
  | none => exact .inl hoffset
  | some offset => exact .inr ⟨offset, hoffset, offset_of_timeOf? htime⟩

end Iso

theorem Clock.zoned_moment {clock : Clock} {m : Moment} (h : clock.moment = .ok m) : m.Zoned := by
  unfold Clock.moment at h
  split at h
  · cases h
  · cases h
  split at h
  · cases h
  split at h
  swap
  · cases h
  next instant _ moment hmoment =>
    obtain rfl := Except.ok.inj h
    unfold Moment.ofInstant? at hmoment
    obtain ⟨date, -, hmoment⟩ := Option.bind_eq_some_iff.mp hmoment
    exact ⟨0, Moment.of?_eq_some hmoment, .inl rfl⟩

end CaseWorkflow
