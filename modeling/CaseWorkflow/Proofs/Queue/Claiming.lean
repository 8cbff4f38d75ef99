import CaseWorkflow.Proofs.Queue.Frame
import CaseWorkflow.Proofs.Queue.Passage

/-!
# Whether a claim is whole

A claim takes a text first, and reads it and sets its lease afterwards.  It is whole, in that it
hands out what it takes, if and only if the text that it takes can be read and its lease can be
set; otherwise the text stays with the claimed ones, and nobody holds it.
-/

namespace CaseWorkflow

open Attempt

namespace Queue

variable {q : Queue} {b t : Broker} {now : Double} {text : String} {seconds : ℤ}

/-! ## Taking and handing out -/

/-- The store answers the queue. -/
def Open (q : Queue) (b : Broker) : Prop :=
  b.connection = .up ∨ (b.connection = .badAddress ∧ q.fresh = false)

theorem Open.ask_gives {α : Type} (h : q.Open b) {command : Attempt Broker α}
    {Q : Except Fault α → Broker → Prop} (hends : command.Ends b Q) : (q.ask command).Ends b Q := by
  unfold ask
  apply Ends.bind_ok (gives_get b)
  rcases h with hup | ⟨hbad, hold⟩
  · simpa only [hup] using hends
  · simpa only [hbad, hold, Bool.false_eq_true, if_false] using hends

theorem ask_refused {α : Type} (h : ¬q.Open b) (command : Attempt Broker α) :
    ∃ fault, (q.ask command).Gives b (.error fault) b := by
  unfold ask
  cases hconnection : b.connection with
  | up => exact absurd (.inl hconnection) h
  | down =>
      refine ⟨.storeDown, (gives_get b).bind_ok ?_⟩
      simp only [hconnection]
      exact gives_fail _ b
  | badAddress =>
      have hfresh : q.fresh = true := by
        by_contra hold
        exact h (.inr ⟨hconnection, by simpa using hold⟩)
      refine ⟨.addressUnusable, (gives_get b).bind_ok ?_⟩
      simp only [hconnection, hfresh, if_true]
      exact gives_fail _ b

/-- The first half of a claim: the texts that are due join the pending ones, and the oldest
one is taken. -/
def take (q : Queue) (now : Double) : Attempt Broker (Option String) := do
  q.ask (Broker.releaseDue now q.delayed q.pending)
  q.ask (Broker.moveLast now q.pending q.processing)

/-- The second half of a claim: the text is read, and its lease is set. -/
def handOut (q : Queue) (now : Double) : Option String → Attempt Broker Claim
  | none => return .nothing
  | some text => do
    if text.isEmpty then return .blank
    let message ← Attempt.ofExcept (Message.decode text)
    q.hold now message
    Attempt.note .queue .debug
      s!"Claimed message {message.id.plainText} (attempt {message.attempt.plainText})"
    return .message message

theorem claim_eq (q : Queue) (now : Double) : q.claim now = q.take now >>= q.handOut now := by
  unfold claim take
  rw [bind_assoc]
  rfl

/-- The connection and the claimed texts are the same. -/
structure SameClaims (q : Queue) (b t : Broker) : Prop where
  connection : t.connection = b.connection
  claimed : t.list q.processing = b.list q.processing

instance : IsPreorder Broker q.SameClaims where
  refl _ := ⟨rfl, rfl⟩
  trans _ _ _ h h' := ⟨h'.connection.trans h.connection, h'.claimed.trans h.claimed⟩

theorem sameClaims_refreshed (b : Broker) (now : Double) (key : String) :
    q.SameClaims b (b.refreshed now key) := by
  unfold Broker.refreshed
  split <;> exact ⟨rfl, rfl⟩

theorem sameClaims_withList_pending (b : Broker) (texts : List String) :
    q.SameClaims b (b.withList q.pending texts) :=
  ⟨rfl, by rw [Broker.list_withList, if_neg q.ne_keys.1.symm]⟩

/-- Moving a text puts it at the head of the claimed ones, and changes nothing else there. -/
theorem ends_moveLast_any (b : Broker) :
    (Broker.moveLast now q.pending q.processing).Ends b fun result t =>
      t.connection = b.connection ∧ t.list q.processing
        = (result.toOption.join.toList ++ b.list q.processing) := by
  have hlook : ∀ (b : Broker) key wanted, (Broker.look now key wanted).Ends b fun result t =>
      q.SameClaims b t ∧ ∀ seen, result = .ok seen → seen = t := by
    intro b key wanted
    apply (Broker.ends_look b now key wanted).mono
    rintro result t ⟨rfl, hseen⟩
    exact ⟨sameClaims_refreshed b now key, hseen⟩
  unfold Broker.moveLast
  apply ends_after_check _ (fun fault => ⟨rfl, rfl⟩)
  apply ends_after_check _ (fun fault => ⟨rfl, rfl⟩)
  apply (hlook b q.pending .list).bind
  · exact fun fault t ht => ⟨ht.1.connection, ht.1.claimed⟩
  rintro seen t ⟨hsame, hseen⟩
  obtain rfl := hseen seen rfl
  split
  next => exact (gives_pure none seen).ends ⟨hsame.connection, hsame.claimed⟩
  next text _ =>
    apply (hlook seen q.processing .list).bind
    · exact fun fault u hu =>
        ⟨hu.1.connection.trans hsame.connection, hu.1.claimed.trans hsame.claimed⟩
    rintro other u ⟨hother, hseen⟩
    obtain rfl := hseen other rfl
    apply Ends.bind_ok (gives_set other _)
    refine (gives_pure (some text) _).ends ⟨hother.connection.trans hsame.connection, ?_⟩
    rw [Broker.list_withList, if_pos rfl, Broker.list_withList, if_neg q.ne_keys.1.symm,
      hother.claimed, hsame.claimed]
    rfl

/-- What was taken stands at the head of the claimed texts. -/
theorem ends_take_any (q : Queue) (now : Double) (b : Broker) :
    (q.take now).Ends b fun result t =>
      t.connection = b.connection ∧ t.list q.processing
        = (result.toOption.join.toList ++ b.list q.processing) := by
  have hdue : (q.ask (Broker.releaseDue now q.delayed q.pending)).Preserves q.SameClaims :=
    preserves_ask (Broker.preserves_releaseDue (fun b => sameClaims_refreshed b now _)
      (fun b => sameClaims_refreshed b now _) (fun _ _ => ⟨rfl, rfl⟩) sameClaims_withList_pending)
  apply (hdue b).bind
  · exact fun fault t ht => ⟨ht.connection, ht.claimed⟩
  rintro ⟨⟩ t ht
  by_cases hopen : q.Open t
  · apply (hopen.ask_gives (ends_moveLast_any t)).mono
    rintro result u ⟨hconnection, hclaimed⟩
    exact ⟨hconnection.trans ht.connection, by rw [hclaimed, ht.claimed]⟩
  · obtain ⟨fault, hrefused⟩ := ask_refused hopen (Broker.moveLast now q.pending q.processing)
    exact hrefused.ends ⟨ht.connection, ht.claimed⟩

/-- Nothing is taken from a store that does not answer. -/
theorem take_refused (h : ¬q.Open b) (now : Double) :
    ∃ fault, (q.take now).Gives b (.error fault) b := by
  obtain ⟨fault, hrefused⟩ := ask_refused h (Broker.releaseDue now q.delayed q.pending)
  exact ⟨fault, hrefused.bind_error⟩

/-! ## Whole claims -/

/-- A text that can be handed out: it is read as a message whose lease can be set. -/
def Claimable (q : Queue) (now : Double) (seconds : ℤ) (text : String) : Prop :=
  ∃ m stop, Message.decode text = .ok m ∧ Text.Whole (q.lease m.id) ∧
    markEnd now seconds = .ok stop

/-- The claim answers a message that stands with the claimed ones under a lease that has not
ended, or it claims nothing. -/
def Whole (q : Queue) (now : Double) (b : Broker) (result : Except Fault Claim)
    (t : Broker) : Prop :=
  match result with
  | .ok (.message m) => ∃ text, t.list q.processing = text :: b.list q.processing ∧
      Message.decode text = .ok m ∧ t.isMarked now (q.lease m.id) = true
  | _ => t.list q.processing = b.list q.processing

/-- The lease of a message is set if it can be, and the claimed texts stay. -/
theorem Open.ends_hold (h : q.Open t) (hlease : q.leaseSeconds = .int seconds)
    (hnow : now ≠ .nan) (m : Message) :
    (q.hold now m).Ends t fun result u =>
      u.list q.processing = t.list q.processing ∧
        ((result = .ok () ∧ Text.Whole (q.lease m.id) ∧ (∃ stop, markEnd now seconds = .ok stop) ∧
            u.isMarked now (q.lease m.id) = true) ∨
          ((∃ fault, result = .error fault) ∧
            ¬(Text.Whole (q.lease m.id) ∧ ∃ stop, markEnd now seconds = .ok stop))) := by
  have hother : q.processing ≠ q.lease m.id := fun heq =>
    q.lease_not_mem_placeKeys m.id (heq ▸ mem_placeKeys_iff.mpr (by simp))
  unfold hold
  rw [hlease]
  apply h.ask_gives
  unfold Broker.mark
  by_cases hwhole : Text.Whole (q.lease m.id)
  · apply Ends.bind_ok (gives_check hwhole t)
    cases hstop : markEnd now seconds with
    | error fault =>
        exact Ends.bind_error (gives_ofExcept _ t) ⟨rfl, .inr ⟨⟨fault, rfl⟩, by simp⟩⟩
    | ok stop =>
        apply Ends.bind_ok (gives_ofExcept _ t)
        refine (gives_modify _ t).ends
          ⟨Broker.list_without hother, .inl ⟨rfl, hwhole, ⟨stop, rfl⟩, ?_⟩⟩
        rw [Broker.isMarked, Broker.lookup_marks_withMark, if_pos rfl]
        exact le_of_markEnd hnow hstop
  · obtain ⟨fault, hrefused⟩ := gives_check_refused hwhole t
    exact Ends.bind_error hrefused ⟨rfl, .inr ⟨⟨fault, rfl⟩, fun hset => hwhole hset.1⟩⟩

/-- A text that was taken is handed out if and only if it can be. -/
theorem Open.ends_handOut (h : q.Open t) (hlease : q.leaseSeconds = .int seconds)
    (hnow : now ≠ .nan) (htaken : t.list q.processing = text :: b.list q.processing) :
    (q.handOut now (some text)).Ends t fun result u =>
      (q.Whole now b result u ↔ q.Claimable now seconds text) ∧
        ∀ m, result = .ok (.message m) → q.Claimable now seconds text := by
  have hmoved : ∀ {u : Broker}, u.list q.processing = t.list q.processing →
      u.list q.processing ≠ b.list q.processing := by
    intro u hu heq
    exact List.cons_ne_self text _ (htaken.symm.trans (hu.symm.trans heq))
  simp only [handOut]
  split
  next hblank =>
    obtain rfl := String.isEmpty_iff.mp hblank
    refine (gives_pure Claim.blank t).ends
      ⟨⟨fun hwhole => absurd hwhole (hmoved rfl), ?_⟩, fun m heq => ?_⟩
    · rintro ⟨m, stop, hread, -⟩
      exact absurd hread m.decode_empty
    · cases heq
  next =>
    cases hread : Message.decode text with
    | error fault =>
        refine Ends.bind_error (gives_ofExcept _ t)
          ⟨⟨fun hwhole => absurd hwhole (hmoved rfl), ?_⟩, fun m heq => ?_⟩
        · rintro ⟨m, stop, hother, -⟩
          rw [hread] at hother
          cases hother
        · cases heq
    | ok m =>
        apply Ends.bind_ok (gives_ofExcept _ t)
        apply (h.ends_hold hlease hnow m).bind
        · rintro fault u ⟨hsame, ⟨heq, -⟩ | ⟨-, hunset⟩⟩
          · cases heq
          refine ⟨⟨fun hwhole => absurd hwhole (hmoved hsame), ?_⟩, fun m heq => ?_⟩
          · rintro ⟨m', stop, hother, hkey, hstop⟩
            rw [hread] at hother
            obtain rfl := Except.ok.inj hother
            exact absurd ⟨hkey, stop, hstop⟩ hunset
          · cases heq
        · rintro ⟨⟩ u ⟨hsame, ⟨-, hkey, ⟨stop, hstop⟩, hmarked⟩ | ⟨⟨fault, heq⟩, -⟩⟩
          swap
          · cases heq
          have hclaimable : q.Claimable now seconds text := ⟨m, stop, hread, hkey, hstop⟩
          apply Ends.bind_ok (gives_note _ _ _ u)
          exact (gives_pure (Claim.message m) u).ends
            ⟨⟨fun _ => hclaimable, fun _ => ⟨text, hsame.trans htaken, hread, hmarked⟩⟩,
              fun _ _ => hclaimable⟩

/-- A claim is whole if and only if what it takes can be handed out; a claim that answers a
message is whole. -/
theorem ends_claim_whole (hlease : q.leaseSeconds = .int seconds) (hnow : now ≠ .nan)
    (b : Broker) :
    (q.claim now).Ends b fun result t =>
      (q.Whole now b result t ↔
        ∀ text, ((q.take now).run b).result = .ok (some text) → q.Claimable now seconds text) ∧
      ∀ m, result = .ok (.message m) → q.Whole now b result t := by
  rw [claim_eq]
  by_cases hopen : q.Open b
  · have htake := q.ends_take_any now b
    unfold Ends at htake
    generalize hrun : (q.take now).run b = outcome at htake
    obtain ⟨taken, t, notes⟩ := outcome
    obtain ⟨hconnection, hclaimed⟩ := htake
    have htaken : (q.take now).Gives b taken t := by
      rw [Gives, hrun]
      exact ⟨rfl, rfl⟩
    rcases taken with fault | _ | text
    · refine Ends.bind_error htaken ⟨⟨fun _ text heq => ?_, fun _ => hclaimed⟩, fun m heq => ?_⟩
      · cases heq
      · cases heq
    · refine Ends.bind_ok htaken ((gives_pure Claim.nothing t).ends
        ⟨⟨fun _ text heq => ?_, fun _ => hclaimed⟩, fun m heq => ?_⟩)
      · cases heq
      · cases heq
    · have hopen' : q.Open t := by
        unfold Open
        rwa [hconnection]
      apply Ends.bind_ok htaken
      apply (hopen'.ends_handOut hlease hnow hclaimed).mono
      rintro result u ⟨hwhole, hmessage⟩
      refine ⟨?_, fun m heq => hwhole.mpr (hmessage m heq)⟩
      rw [hwhole]
      constructor
      · rintro hclaimable other heq
        obtain rfl := Option.some.inj (Except.ok.inj heq)
        exact hclaimable
      · exact fun hall => hall text rfl
  · obtain ⟨fault, hrefused⟩ := take_refused hopen now
    refine Ends.bind_error hrefused ⟨⟨fun _ text heq => ?_, fun _ => rfl⟩, fun m heq => ?_⟩
    · rw [hrefused.1] at heq
      cases heq
    · cases heq

/-- What is taken from a store that is as the queue left it is the next text. -/
theorem Tidy.take_result (h : q.Tidy b) (hname : Text.Whole q.name) (now : Double) :
    ((q.take now).run b).result = .ok ((q.board b).next? now) := by
  have htake : (q.take now).Ends b fun result _ => result = .ok ((q.board b).next? now) := by
    rw [← bind_pure (q.take now), take, bind_assoc]
    exact h.ends_take hname now fun t _ => (gives_pure _ t).ends rfl
  exact htake

/-- A lease that lasts no time is never set. -/
theorem markEnd_ne_ok (h : seconds ≤ 0) (now stop : Double) : markEnd now seconds ≠ .ok stop :=
  fun hstop => absurd (markEnd_eq_ok hstop).1 (by omega)

end Queue

end CaseWorkflow
