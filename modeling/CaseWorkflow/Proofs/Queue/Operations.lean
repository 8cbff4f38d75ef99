import CaseWorkflow.Proofs.Queue.Message
import CaseWorkflow.Proofs.Queue.Store

/-!
# What the operations of a queue do to its places

An operation either ends with a fault before it has changed the places, or goes on to its
end.  Some come to a fault later: a claim whose text is no message or whose lease cannot
be set, after it has taken the text; a settlement whose message cannot be written, after
it has dropped the claimed text; and the return of expired messages, between two of them.
-/

namespace CaseWorkflow

theorem Message.whole_encode (m : Message) : Text.Whole m.encode :=
  (Json.ascii_write m.toValue).not_isHalf

namespace Queue

variable {q : Queue} {b t : Broker}

/-- Without a name that has an encoding, each command is refused. -/
theorem Tidy.gives_refused {α : Type} (h : q.Tidy b) (hname : ¬Text.Whole q.name) {key : String}
    (hkey : key ∈ q.placeKeys) (next : Unit → Attempt Broker α) :
    ∃ fault, (q.ask (Broker.check key >>= next)).Gives b (.error fault) b := by
  have hkey : ¬Text.Whole key := fun hwhole => hname (whole_name_of_mem_placeKeys hkey hwhole)
  obtain ⟨fault, hrefused⟩ := gives_check_refused hkey b
  exact ⟨fault, h.ask_gives hrefused.bind_error⟩

/-! ## Publishing -/

/-- The text joined the pending ones or the ones that are due later. -/
def Added (text : String) (places places' : Board) : Prop :=
  places' = places.queued text ∨ ∃ due, places' = places.planned due text

/-- A published message has the next id, can be written, and its text was added; otherwise the
places are as they were. -/
def Published (q : Queue) (b : Broker) (event : Event) (now : Double)
    (result : Except Fault (Option Message)) (t : Broker) : Prop :=
  q.Tidy t ∧ t.issued = b.issued + 1 ∧
    match result with
    | .ok (some p) =>
      p = Message.create s!"msg-{b.issued + 1}" event now ∧ Text.Whole q.name ∧
        p.write = .ok p.encode ∧ Added p.encode (q.board b) (q.board t)
    | _ => q.board t = q.board b

/-- The text that is prepared is that of the message, which can be written. -/
theorem write_of_prepare {now : Double} {message : Message} {delay : Value} {text : String}
    {due? : Option Double} (h : prepare now message delay = .ok (text, due?)) :
    message.write = .ok text := by
  unfold prepare at h
  cases hdelay : putOff? delay with
  | error fault => rw [hdelay] at h; cases h
  | ok seconds? =>
      rw [hdelay, Json.ok_bind] at h
      cases hwrite : message.write with
      | error fault => rw [hwrite] at h; cases h
      | ok written =>
          rw [hwrite, Json.ok_bind] at h
          cases seconds? with
          | none => exact congrArg Except.ok (Prod.mk.inj (Except.ok.inj h)).1
          | some seconds =>
              dsimp only at h
              cases hdue : dueTime now seconds with
              | error fault => rw [hdue] at h; cases h
              | ok due =>
                  rw [hdue] at h
                  exact congrArg Except.ok (Prod.mk.inj (Except.ok.inj h)).1

/-- A message is queued unless it cannot be prepared or the store refuses the name of the
queue; then the store is as it was. -/
theorem Tidy.ends_enqueue (h : q.Tidy b) (now : Double) (event : Event) (message : Message)
    (delay : Value) :
    (q.enqueue now event message delay).Ends b fun result t =>
      match result with
      | .ok () => Text.Whole q.name ∧ message.write = .ok message.encode ∧
          ∃ due?, prepare now message delay = .ok (message.encode, due?) ∧
            q.Becomes b t (match due? with
              | some due => (q.board b).planned due message.encode
              | none => (q.board b).queued message.encode)
      | .error fault => t = b ∧ (Text.Whole q.name → prepare now message delay = .error fault) := by
  have hdelayed : q.delayed ∈ q.placeKeys := mem_placeKeys_iff.mpr (by simp)
  have hpending : q.pending ∈ q.placeKeys := mem_placeKeys_iff.mpr (by simp)
  unfold enqueue
  cases hprepare : prepare now message delay with
  | error fault =>
      exact Attempt.Ends.bind_error (Attempt.gives_ofExcept _ b) ⟨rfl, fun _ => rfl⟩
  | ok prepared =>
      obtain ⟨text, due?⟩ := prepared
      have hwrite := write_of_prepare hprepare
      obtain rfl := Message.encode_of_write hwrite
      apply Attempt.Ends.bind_ok (Attempt.gives_ofExcept _ b)
      by_cases hname : Text.Whole q.name
      · cases due? with
        | some due =>
            have hplan := h.becomes_delayed
              (Schedule.insert (due, message.encode)
                ((b.schedule q.delayed).filter (·.2 != message.encode)))
            apply Attempt.Ends.bind_ok
              (h.ask_gives (h.gives_plan hname message.whole_encode now due))
            exact (Attempt.gives_note _ _ _ _).ends ⟨hname, hwrite, some due, rfl, hplan⟩
        | none =>
            have hpush := h.becomes_pending (message.encode :: b.list q.pending)
            apply Attempt.Ends.bind_ok
              (h.ask_gives (h.gives_push hname (by simp [listKeys]) message.whole_encode now))
            exact (Attempt.gives_note _ _ _ _).ends ⟨hname, hwrite, none, rfl, hpush⟩
      · cases due? with
        | some due =>
            obtain ⟨fault, hrefused⟩ := h.gives_refused hname hdelayed _
            exact Attempt.Ends.bind_error hrefused ⟨rfl, fun hwhole => absurd hwhole hname⟩
        | none =>
            obtain ⟨fault, hrefused⟩ := h.gives_refused hname hpending _
            exact Attempt.Ends.bind_error hrefused ⟨rfl, fun hwhole => absurd hwhole hname⟩

theorem gives_drawId (b : Broker) :
    drawId.Gives b (.ok s!"msg-{b.issued + 1}") { b with issued := b.issued + 1 } := by
  unfold drawId
  apply Attempt.Gives.bind_ok (Attempt.gives_get b)
  apply Attempt.Gives.bind_ok (Attempt.gives_set b _)
  exact Attempt.gives_pure _ _

/-- A publish draws an id.  The guard of the event changes nothing in the places, and what is not
taken for a duplicate is queued as a message with this id. -/
theorem Tidy.ends_publish_of_enqueue (h : q.Tidy b) (now : Double) (event : Event) (delay : Value)
    (deduplicate : Bool) {Q : Except Fault (Option Message) → Broker → Prop}
    (hfault : ∀ fault t, q.Untouched { b with issued := b.issued + 1 } t → Q (.error fault) t)
    (hnone : ∀ t, q.Untouched { b with issued := b.issued + 1 } t → Q (.ok none) t)
    (henqueue : ∀ t, q.Untouched { b with issued := b.issued + 1 } t →
      (q.enqueue now event (Message.create s!"msg-{b.issued + 1}" event now) delay).Ends t
        fun result u =>
          Q (result.map fun _ => some (Message.create s!"msg-{b.issued + 1}" event now)) u) :
    (q.publish now event delay deduplicate).Ends b Q := by
  have hissued := h.issue (b.issued + 1)
  have haccepted : ∀ (accepted : Bool) t, q.Untouched { b with issued := b.issued + 1 } t →
      (if accepted then do
          q.enqueue now event (Message.create s!"msg-{b.issued + 1}" event now) delay
          return some (Message.create s!"msg-{b.issued + 1}" event now)
        else do
          Attempt.note .queue .info s!"Duplicate event {event.id} not queued"
          return none).Ends t Q := by
    intro accepted t ht
    split
    next =>
      apply (henqueue t ht).bind
      · exact fun fault u hu => hu
      · exact fun _ u hu => (Attempt.gives_pure _ u).ends hu
    next =>
      apply Attempt.Ends.bind_ok (Attempt.gives_note _ _ _ t)
      exact (Attempt.gives_pure none t).ends (hnone t ht)
  unfold publish
  apply Attempt.Ends.bind_ok (gives_drawId b)
  dsimp only
  split
  next =>
    apply (hissued.ask_ends (hissued.ends_markFree (q.guardOf_not_mem_placeKeys _) now _)).bind
    · exact hfault
    · exact haccepted
  next =>
    apply Attempt.Ends.bind_ok (Attempt.gives_pure true _)
    exact haccepted true _ hissued.untouched

theorem Tidy.ends_publish (h : q.Tidy b) (now : Double) (event : Event) (delay : Value)
    (deduplicate : Bool) :
    (q.publish now event delay deduplicate).Ends b (q.Published b event now) := by
  apply h.ends_publish_of_enqueue
  · exact fun fault t ht => ⟨ht.tidy, ht.issued, ht.board⟩
  · exact fun t ht => ⟨ht.tidy, ht.issued, ht.board⟩
  · intro t ht
    apply (ht.tidy.ends_enqueue now event _ delay).mono
    rintro (fault | ⟨⟩) u hends
    · obtain ⟨rfl, -⟩ := hends
      exact ⟨ht.tidy, ht.issued, ht.board⟩
    · obtain ⟨hname, hwrite, due?, -, hqueued⟩ := hends
      refine ⟨hqueued.tidy, hqueued.issued.trans ht.issued, rfl, hname, hwrite, ?_⟩
      rw [hqueued.board, show q.board b = q.board t from ht.board.symm]
      cases due? with
      | none => exact .inl rfl
      | some due => exact .inr ⟨due, rfl⟩

/-! ## Claiming -/

/-- What a claim answers for the text that it takes.  Setting the lease may fail. -/
def Answers (text? : Option String) (result : Except Fault Claim) : Prop :=
  match text? with
  | none => result = .ok .nothing
  | some text =>
    (text = "" ∧ result = .ok .blank) ∨
      (text ≠ "" ∧ match Message.decode text with
        | .error fault => result = .error fault
        | .ok m => result = .ok (.message m) ∨ ∃ fault, result = .error fault)

theorem Tidy.ends_hold (h : q.Tidy b) (now : Double) (m : Message) :
    (q.hold now m).Ends b fun _ t => q.Untouched b t := by
  have hlease := q.lease_not_mem_placeKeys m.id
  unfold hold
  split
  next => exact h.ask_ends (h.ends_mark hlease now _)
  next =>
    split
    next =>
      cases hread : (readInt _).mapError Fault.number with
      | error fault => exact Attempt.Ends.bind_error (Attempt.gives_ofExcept _ b) h.untouched
      | ok seconds =>
          apply Attempt.Ends.bind_ok (Attempt.gives_ofExcept _ b)
          exact h.ask_ends (h.ends_mark hlease now seconds)
    next => exact (Attempt.gives_fail _ b).ends h.untouched
  next =>
    apply ends_after_check _ (fun _ => h.untouched)
    exact (Attempt.gives_fail _ b).ends h.untouched
  next => exact (Attempt.gives_fail _ b).ends h.untouched

theorem Tidy.gives_releaseDue_refused (h : q.Tidy b) (hname : ¬Text.Whole q.name) (now : Double) :
    ∃ fault, (q.ask (Broker.releaseDue now q.delayed q.pending)).Gives b (.error fault) b := by
  have hkey : ¬Text.Whole q.delayed := fun hwhole =>
    hname (whole_name_of_mem_placeKeys (mem_placeKeys_iff.mpr (.inl rfl)) hwhole)
  obtain ⟨fault, hrefused⟩ := gives_check_refused hkey b
  exact ⟨fault, h.ask_gives hrefused.bind_error.bind_error⟩

/-- A claim takes the next text, if the name of the queue has an encoding, and goes on with
it. -/
theorem Tidy.ends_take {α : Type} (h : q.Tidy b) (hname : Text.Whole q.name) (now : Double)
    {next : Option String → Attempt Broker α} {Q : Except Fault α → Broker → Prop}
    (hnext : ∀ t, q.Becomes b t ((q.board b).claimed now) →
      (next ((q.board b).next? now)).Ends t Q) :
    (q.ask (Broker.releaseDue now q.delayed q.pending) >>= fun _ =>
      q.ask (Broker.moveLast now q.pending q.processing) >>= next).Ends b Q := by
  apply (h.ask_ends (h.ends_releaseDue hname now)).bind
  · rintro fault t ⟨heq, -⟩
    cases heq
  rintro ⟨⟩ t ⟨-, hreleased⟩
  apply (hreleased.tidy.ask_ends (hreleased.tidy.ends_moveLast hname now)).bind
  · rintro fault u ⟨heq, -⟩
    cases heq
  rintro text? u ⟨heq, htaken⟩
  rw [hreleased.board] at heq htaken
  obtain rfl : text? = (q.board b).next? now := Except.ok.inj heq
  exact hnext u (hreleased.trans htaken)

theorem Tidy.ends_claim (h : q.Tidy b) (now : Double) :
    (q.claim now).Ends b fun result t =>
      (¬Text.Whole q.name ∧ q.Untouched b t ∧ ∃ fault, result = .error fault) ∨
        (q.Becomes b t ((q.board b).claimed now) ∧ Answers ((q.board b).next? now) result) := by
  unfold claim
  by_cases hname : Text.Whole q.name
  · apply h.ends_take hname now
    intro u hclaimed
    cases hnext : (q.board b).next? now with
    | none => exact (Attempt.gives_pure _ u).ends (.inr ⟨hclaimed, rfl⟩)
    | some text =>
        dsimp only
        split
        next hblank =>
          have hempty := String.isEmpty_iff.mp hblank
          exact (Attempt.gives_pure _ u).ends (.inr ⟨hclaimed, .inl ⟨hempty, rfl⟩⟩)
        next hfull =>
          have hne : text ≠ "" := fun heq => hfull (String.isEmpty_iff.mpr heq)
          cases hread : Message.decode text with
          | error fault =>
              refine Attempt.Ends.bind_error (Attempt.gives_ofExcept _ u)
                (.inr ⟨hclaimed, .inr ⟨hne, ?_⟩⟩)
              rw [hread]
          | ok m =>
              have hanswers : ∀ result : Except Fault Claim, result = .ok (.message m) ∨
                  (∃ fault, result = .error fault) → Answers (some text) result := by
                intro result hresult
                refine .inr ⟨hne, ?_⟩
                rw [hread]
                exact hresult
              apply Attempt.Ends.bind_ok (Attempt.gives_ofExcept _ u)
              apply (hclaimed.tidy.ends_hold now m).bind
              · exact fun fault v hheld =>
                  .inr ⟨hclaimed.untouched hheld, hanswers _ (.inr ⟨fault, rfl⟩)⟩
              · intro _ v hheld
                apply Attempt.Ends.bind_ok (Attempt.gives_note _ _ _ v)
                exact (Attempt.gives_pure _ v).ends
                  (.inr ⟨hclaimed.untouched hheld, hanswers _ (.inl rfl)⟩)
  · obtain ⟨fault, hrefused⟩ := h.gives_releaseDue_refused hname now
    exact Attempt.Ends.bind_error hrefused (.inl ⟨hname, h.untouched, fault, rfl⟩)

/-! ## Settling a claim -/

/-- The message and the claimed texts can be named to the store. -/
structure Nameable (q : Queue) (b : Broker) (m : Message) : Prop where
  id : Text.Whole m.id.plainText
  texts : ∀ text ∈ (q.board b).processing, Text.Whole text

theorem whole_lease (hname : Text.Whole q.name) {id : Value} (hid : Text.Whole id.plainText) :
    Text.Whole (q.lease id) := by
  have hword : Text.Whole ":lease:" := by decide
  exact (hname.append hword).append hid

theorem mem_of_findText {id : Value} {texts : List String} {text : String}
    (h : findText id texts = .ok (some text)) : text ∈ texts := by
  induction texts with
  | nil => cases h
  | cons other rest ih =>
      rw [findText] at h
      cases hread : Message.decode other with
      | error fault => rw [hread] at h; cases h
      | ok m =>
          rw [hread, Json.ok_bind] at h
          split at h
          next =>
            obtain rfl : other = text := Option.some.inj (Except.ok.inj h)
            exact List.mem_cons_self
          next => exact List.mem_cons_of_mem other (ih h)

/-- A release drops the text that is found for the message. -/
theorem Tidy.ends_release_of_find (h : q.Tidy b) (hname : Text.Whole q.name) (now : Double)
    {m : Message} (hm : q.Nameable b m) {text? : Option String}
    (hfind : findText m.id (q.board b).processing = .ok text?) :
    (q.release now m).Ends b fun result t =>
      result = .ok () ∧ q.Becomes b t ((q.board b).dropped text?) := by
  have hprocessing : q.processing ∈ q.listKeys := by simp [listKeys]
  have hdelete : ∀ {t : Broker}, q.Tidy t → (q.ask (Broker.delete (q.lease m.id))).Ends t
      fun result u => result = .ok () ∧ q.Untouched t u := fun ht =>
    ht.ask_ends (ht.ends_delete (q.lease_not_mem_placeKeys m.id) (whole_lease hname hm.id))
  unfold release
  apply Attempt.Ends.bind_ok (h.ask_gives (h.gives_texts hname hprocessing now))
  rw [show b.list q.processing = (q.board b).processing from rfl, hfind]
  apply Attempt.Ends.bind_ok (Attempt.gives_ofExcept _ b)
  cases text? with
  | none => exact hdelete h
  | some text =>
      have hwhole := hm.texts text (mem_of_findText hfind)
      have hdropped := h.becomes_processing ((q.board b).processing.erase text)
      apply Attempt.Ends.bind_ok (h.ask_gives (h.gives_drop hname hprocessing hwhole now))
      apply (hdelete hdropped.tidy).mono
      rintro result t ⟨rfl, ht⟩
      exact ⟨rfl, hdropped.untouched ht⟩

/-- A release does nothing, or drops the text that is found for the message. -/
theorem Tidy.ends_release (h : q.Tidy b) (now : Double) {m : Message} (hm : q.Nameable b m) :
    (q.release now m).Ends b fun result t =>
      (q.Untouched b t ∧ ∃ fault, result = .error fault) ∨
        (Text.Whole q.name ∧ ∃ text?, findText m.id (q.board b).processing = .ok text? ∧
          result = .ok () ∧ q.Becomes b t ((q.board b).dropped text?)) := by
  have hprocessing : q.processing ∈ q.listKeys := by simp [listKeys]
  by_cases hname : Text.Whole q.name
  · cases hfind : findText m.id (q.board b).processing with
    | error fault =>
        unfold release
        apply Attempt.Ends.bind_ok (h.ask_gives (h.gives_texts hname hprocessing now))
        rw [show b.list q.processing = (q.board b).processing from rfl, hfind]
        exact Attempt.Ends.bind_error (Attempt.gives_ofExcept _ b) (.inl ⟨h.untouched, fault, rfl⟩)
    | ok text? =>
        apply (h.ends_release_of_find hname now hm hfind).mono
        rintro result t ⟨rfl, hdropped⟩
        exact .inr ⟨hname, text?, rfl, rfl, hdropped⟩
  · have hplace := mem_placeKeys_of_mem_listKeys hprocessing
    obtain ⟨fault, hrefused⟩ := h.gives_refused hname hplace _
    exact Attempt.Ends.bind_error hrefused (.inl ⟨h.untouched, fault, rfl⟩)

/-- The end of a retry: nothing was done, or the text that was found was dropped, and the next
attempt was queued if it could be written. -/
def Retried (q : Queue) (b : Broker) (m : Message) (result : Except Fault Message)
    (t : Broker) : Prop :=
  (q.Untouched b t ∧ ∃ fault, result = .error fault) ∨
    ∃ text?, findText m.id (q.board b).processing = .ok text? ∧
      ((∃ fault, (m.nextAttempt >>= Message.write) = .error fault ∧ result = .error fault ∧
          q.Becomes b t ((q.board b).dropped text?)) ∨
        ∃ next text, m.nextAttempt = .ok next ∧ next.write = .ok text ∧ result = .ok next ∧
          q.Becomes b t (((q.board b).dropped text?).queued text))

theorem Tidy.ends_retry (h : q.Tidy b) (now : Double) {m : Message} (hm : q.Nameable b m) :
    (q.retry now m).Ends b (q.Retried b m) := by
  unfold retry
  apply (h.ends_release now hm).bind
  · rintro fault t (hfault | ⟨-, text?, -, heq, -⟩)
    · exact .inl ⟨hfault.1, fault, rfl⟩
    · cases heq
  rintro ⟨⟩ t (⟨-, fault, heq⟩ | ⟨hname, text?, hfind, -, hdropped⟩)
  · cases heq
  cases hnext : m.nextAttempt with
  | error fault =>
      refine Attempt.Ends.bind_error (Attempt.gives_ofExcept _ t) ?_
      exact .inr ⟨text?, hfind, .inl ⟨fault, by rw [hnext]; rfl, rfl, hdropped⟩⟩
  | ok next =>
      apply Attempt.Ends.bind_ok (Attempt.gives_ofExcept _ t)
      cases hwrite : next.write with
      | error fault =>
          refine Attempt.Ends.bind_error (Attempt.gives_ofExcept _ t) ?_
          exact .inr ⟨text?, hfind, .inl ⟨fault, by rw [hnext]; exact hwrite, rfl, hdropped⟩⟩
      | ok text =>
          have hwhole : Text.Whole text := Message.encode_of_write hwrite ▸ next.whole_encode
          have hqueued := hdropped.tidy.becomes_pending (text :: t.list q.pending)
          apply Attempt.Ends.bind_ok (Attempt.gives_ofExcept _ t)
          apply Attempt.Ends.bind_ok (hdropped.tidy.ask_gives
            (hdropped.tidy.gives_push hname (by simp [listKeys]) hwhole now))
          apply Attempt.Ends.bind_ok (Attempt.gives_note _ _ _ _)
          refine (Attempt.gives_pure next _).ends ?_
          refine .inr ⟨text?, hfind, .inr ⟨next, text, hnext, hwrite, rfl, ?_⟩⟩
          rw [hdropped.board] at hqueued
          have hpending : t.list q.pending = ((q.board b).dropped text?).pending :=
            congrArg Board.pending hdropped.board
          rw [hpending] at hqueued ⊢
          exact hdropped.trans hqueued

/-- The end of giving a message up: nothing was done, or the text that was found was dropped
and the message buried if it could be written. -/
def Buried (q : Queue) (b : Broker) (m : Message) (reason : Value) (result : Except Fault Unit)
    (t : Broker) : Prop :=
  (q.Untouched b t ∧ ∃ fault, result = .error fault) ∨
    ∃ text?, findText m.id (q.board b).processing = .ok text? ∧
      ((∃ fault, Message.write { m with reason } = .error fault ∧ result = .error fault ∧
          q.Becomes b t ((q.board b).dropped text?)) ∨
        ∃ text, Message.write { m with reason } = .ok text ∧ result = .ok () ∧
          q.Becomes b t (((q.board b).dropped text?).buried text))

theorem Tidy.ends_bury (h : q.Tidy b) (now : Double) {m : Message} (hm : q.Nameable b m)
    (reason : Value) : (q.bury now m reason).Ends b (q.Buried b m reason) := by
  unfold bury
  apply (h.ends_release now hm).bind
  · rintro fault t (hfault | ⟨-, text?, -, heq, -⟩)
    · exact .inl ⟨hfault.1, fault, rfl⟩
    · cases heq
  rintro ⟨⟩ t (⟨-, fault, heq⟩ | ⟨hname, text?, hfind, -, hdropped⟩)
  · cases heq
  cases hwrite : Message.write { m with reason } with
  | error fault =>
      exact Attempt.Ends.bind_error (Attempt.gives_ofExcept _ t)
        (.inr ⟨text?, hfind, .inl ⟨fault, hwrite, rfl, hdropped⟩⟩)
  | ok text =>
      have hwhole : Text.Whole text := Message.encode_of_write hwrite ▸ Message.whole_encode _
      have hburied := hdropped.tidy.becomes_dead (text :: t.list q.dead)
      apply Attempt.Ends.bind_ok (Attempt.gives_ofExcept _ t)
      apply Attempt.Ends.bind_ok (hdropped.tidy.ask_gives
        (hdropped.tidy.gives_push hname (by simp [listKeys]) hwhole now))
      refine (Attempt.gives_note _ _ _ _).ends
        (.inr ⟨text?, hfind, .inr ⟨text, hwrite, rfl, ?_⟩⟩)
      have hdead : t.list q.dead = ((q.board b).dropped text?).dead :=
        congrArg Board.dead hdropped.board
      rw [hdropped.board, hdead] at hburied
      rw [hdead]
      exact hdropped.trans hburied

end Queue

end CaseWorkflow
