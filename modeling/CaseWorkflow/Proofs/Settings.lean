import CaseWorkflow.Proofs.Queue.Message
import CaseWorkflow.Settings

/-!
# The settings of an environment

An integer that is read has no more digits than one that is written may have, so that each
attempt that the settings allow can be written.
-/

namespace CaseWorkflow

namespace NumberText

theorem isDigit_of_withoutUnderscores {before : Char} {cs digits : List Char}
    (h : withoutUnderscores before cs = some digits)
    (hcs : ∀ c ∈ cs, isDigitOrUnderscore c = true) : ∀ d ∈ digits, d.isDigit = true := by
  induction cs generalizing before digits with
  | nil =>
      rw [withoutUnderscores] at h
      split at h
      next => cases h
      next =>
        obtain rfl := Option.some.inj h
        simp
  | cons c cs ih =>
      have hrest : ∀ d ∈ cs, isDigitOrUnderscore d = true := fun d hd => hcs d (by simp [hd])
      rw [withoutUnderscores] at h
      split at h
      next =>
        split at h
        next => exact ih h hrest
        next => cases h
      next hmark =>
        split at h
        next => cases h
        next =>
          obtain ⟨others, hothers, rfl⟩ := Option.map_eq_some_iff.mp h
          have hc : c.isDigit = true := by
            have hc := hcs c List.mem_cons_self
            rw [isDigitOrUnderscore, Bool.or_eq_true] at hc
            exact hc.resolve_right hmark
          exact List.forall_mem_cons.mpr ⟨hc, ih hothers hrest⟩

end NumberText

theorem readInt_natAbs_lt {s : String} {i : ℤ} (h : readInt s = .ok i) :
    i.natAbs < Message.attemptLimit := by
  simp only [readInt] at h
  split at h
  next => cases h
  next digits hdigits =>
    split at h
    next => cases h
    next hcount =>
      split at h
      next => cases h
      next =>
        have hlt := Text.ofDigits_lt (NumberText.isDigit_of_withoutUnderscores hdigits
          fun c hc => by simpa using List.all_eq_true.mp List.all_takeWhile c hc)
        obtain rfl := Except.ok.inj h
        rw [Message.attemptLimit_eq]
        calc (Double.signed _ (Text.ofDigits digits)).natAbs
          _ = Text.ofDigits digits := Double.natAbs_signed _ _
          _ < 10 ^ digits.length := hlt
          _ ≤ 10 ^ NumberText.digitLimit :=
              Nat.pow_le_pow_right (by norm_num) (not_lt.mp hcount)

namespace Settings

/-- The attempts that an environment allows are as few as those of the base, or can be
written. -/
theorem maxAttempts_lt {base s : Settings} {environment : Environment}
    (h : ofEnvironment base environment = .ok s)
    (hbase : base.maxAttempts < Message.attemptLimit) : s.maxAttempts < Message.attemptLimit := by
  unfold ofEnvironment at h
  cases hlease : number readInt environment "QUEUE_PROCESSING_TIMEOUT" base.leaseSeconds with
  | error fault => rw [hlease] at h; cases h
  | ok lease =>
      cases hmax : number readInt environment "MAX_RETRIES" base.maxAttempts with
      | error fault => rw [hlease, hmax] at h; cases h
      | ok limit =>
          cases htimeout : number readFloat environment "ACTION_TIMEOUT_SECONDS"
              base.actionTimeout with
          | error fault => rw [hlease, hmax, htimeout] at h; cases h
          | ok timeout =>
              rw [hlease, hmax, htimeout] at h
              obtain rfl := Except.ok.inj h
              change limit < _
              unfold number at hmax
              split at hmax
              next text _ =>
                cases hread : readInt text with
                | error e => rw [hread] at hmax; cases hmax
                | ok i =>
                    rw [hread] at hmax
                    obtain rfl := Except.ok.inj hmax
                    have hlt := readInt_natAbs_lt hread
                    omega
              next =>
                obtain rfl := Except.ok.inj hmax
                exact hbase

end Settings

end CaseWorkflow
