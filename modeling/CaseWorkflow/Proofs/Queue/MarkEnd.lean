import CaseWorkflow.Calendar.Clock
import CaseWorkflow.Proofs.Number.Sum
import CaseWorkflow.Queue.Broker

/-!
# Marks that can be set

The moments of the calendar are few microseconds compared with what the store counts.  A clock
that shows one of them can set a mark for any time that is not absurdly long.
-/

namespace CaseWorkflow

theorem Date.le_yearOf (n : ℕ) : n * 400 / 146097 ≤ Date.yearOf n := by
  unfold Date.yearOf
  dsimp only
  split <;> split <;> omega

/-- The days of the calendar are numbered from one, and there are ten thousand years of them at
most. -/
theorem Date.lt_of_ofOrdinal? {n : ℕ} {d : Date} (h : Date.ofOrdinal? n = some d) :
    0 < n ∧ n < 3652425 := by
  have hyear : 1 ≤ Date.yearOf n ∧ Date.yearOf n ≤ 9999 := by
    unfold Date.ofOrdinal? Date.of? at h
    dsimp only at h
    split at h
    next hvalid => exact hvalid.1
    next => cases h
  constructor
  · by_contra hzero
    obtain rfl : n = 0 := by omega
    exact absurd hyear.1 (by decide)
  · have hle := Date.le_yearOf n
    omega

theorem Moment.instant_lt_of_ofInstant? {instant : ℤ} {offset : Option ℤ} {m : Moment}
    (h : Moment.ofInstant? instant offset = some m) :
    0 ≤ instant ∧ instant < 3652425 * microsPerDay := by
  unfold Moment.ofInstant? at h
  simp only [Option.bind_eq_bind, Option.bind_eq_some_iff] at h
  obtain ⟨date, hdate, -⟩ := h
  have hday := Date.lt_of_ofOrdinal? hdate
  simp only [microsPerDay, microsPerSecond] at hday ⊢
  omega

/-- A mark lasts as long as it is set for: its length is positive and can be counted. -/
theorem markEnd_eq_ok {now stop : Double} {seconds : ℤ} (h : markEnd now seconds = .ok stop) :
    0 < seconds ∧ seconds < countLimit ∧ stop = now.add (Double.ofNat seconds.toNat) := by
  unfold markEnd at h
  split at h
  next => cases h
  next hcounted =>
    simp only [Bool.or_eq_true, decide_eq_true_eq, not_or, not_le] at hcounted
    dsimp only at h
    split at h
    next => cases h
    next hpositive =>
      simp only [Bool.or_eq_true, decide_eq_true_eq, not_or, not_le] at hpositive
      exact ⟨hpositive.1, hcounted.2, (Except.ok.inj h).symm⟩

/-- A mark has not ended when it is set. -/
theorem le_of_markEnd {now stop : Double} {seconds : ℤ} (hnow : now ≠ .nan)
    (h : markEnd now seconds = .ok stop) : now.le stop = true := by
  obtain ⟨hpositive, hcounted, rfl⟩ := markEnd_eq_ok h
  have hsmall : seconds.toNat ≤ 2 ^ 63 := by
    simp only [countLimit] at hcounted
    omega
  obtain ⟨m, e, hcanonical, heq⟩ := Double.exists_ofNat_eq hsmall (by decide)
  rw [heq]
  exact Double.le_add hnow hcanonical

namespace Clock

variable {clock : Clock} {now : Moment}

theorem exists_instant_of_moment (h : clock.moment = .ok now) :
    ∃ instant, instant? clock.seconds = some instant ∧
      Moment.ofInstant? instant (some 0) = some now := by
  unfold moment at h
  split at h
  · cases h
  · cases h
  split at h
  · cases h
  next instant hinstant =>
    split at h
    swap
    · cases h
    next moment hmoment =>
      obtain rfl := Except.ok.inj h
      exact ⟨instant, hinstant, hmoment⟩

/-- A clock that shows a moment counts no more seconds than have 39 bits. -/
theorem within_of_moment (h : clock.moment = .ok now) : clock.seconds.Within 39 := by
  obtain ⟨instant, hinstant, hmoment⟩ := exists_instant_of_moment h
  simp only [instant?, Option.bind_eq_bind, Option.bind_eq_some_iff] at hinstant
  obtain ⟨⟨whole, part⟩, hsplit, micros, hmicros, hsum⟩ := hinstant
  have hrange := Moment.instant_lt_of_ofInstant? hmoment
  cases hseconds : clock.seconds with
  | finite negative m e hcanonical =>
      rw [hseconds] at hsplit
      have hscaled : (part.scale microsPerSecond).Within 22 :=
        (Double.within_part_of_split hsplit).scale (j := 20) (by decide) (by decide)
      obtain ⟨rounded, hrounded, hsmall⟩ := hscaled.round?
      obtain rfl := Option.some.inj (hrounded.symm.trans hmicros)
      apply Double.within_of_split hsplit
      have hsum := Option.some.inj hsum
      simp only [Moment.epochOrdinal, microsPerDay, microsPerSecond] at hsum hrange
      omega
  | nan | infinity _ =>
      rw [hseconds] at hsplit
      cases hsplit

/-- A clock that shows a moment can set a mark. -/
theorem exists_markEnd (h : clock.moment = .ok now) {seconds : ℕ} (hpos : 0 < seconds)
    (hle : seconds ≤ 2 ^ 39) : ∃ stop, markEnd clock.seconds seconds = .ok stop := by
  have hseconds : (Double.ofNat seconds).Within 40 := Double.within_ofNat hle (by decide)
  have hstop : ((clock.seconds.add (Double.ofNat seconds)).scale 1000).Within 53 :=
    (((within_of_moment h).mono (by decide)).add hseconds (by decide)).scale (j := 10) (by decide)
      (by decide)
  have hlimit : Double.ofNat countLimit = .finite false fullMantissa 11 (by decide) := by
    decide +kernel
  have hless : (Double.ofNat countLimit).le
      ((clock.seconds.add (Double.ofNat seconds)).scale 1000) = false := by
    rw [hlimit]
    exact hstop.le_eq_false _ (by norm_num [fullMantissa])
  have hlow : ¬(seconds : ℤ) < -(countLimit : ℤ) := by
    simp only [countLimit]
    omega
  have hhigh : ¬(countLimit : ℤ) ≤ seconds := by
    simp only [countLimit]
    omega
  exact ⟨clock.seconds.add (Double.ofNat seconds), by simp [markEnd, hlow, hhigh, hpos.ne', hless]⟩

end Clock

end CaseWorkflow
