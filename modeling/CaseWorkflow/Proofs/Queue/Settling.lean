import CaseWorkflow.Proofs.Queue.Claiming
import CaseWorkflow.Proofs.Queue.Guard
import CaseWorkflow.Proofs.Queue.Ledger

/-!
# Settling a claim

What was claimed last stands before all that was claimed earlier.  Settling it finds its own text
first, and brings the claimed texts back to what they were, whatever stands there.
-/

namespace CaseWorkflow

open Attempt

/-! ## Texts that a queue writes -/

namespace Message

variable {m p : Message} {text : String} {k issued : ℕ} {reason : Option String}

/-- The text is that of a message with a text for an id, which counts its attempts. -/
def Written (text : String) : Prop :=
  ∃ (origin : Message) (id : String) (k : ℕ) (reason : Option String),
    origin.write = .ok text ∧ (origin.id = .text id ∧ Text.Whole id) ∧ origin.attempt = .int k ∧
      origin.reason = reasonValue reason

/-- What a text is read as: a message for one of its attempts, which can be written again. -/
structure Reads (text : String) (m : Message) (k : ℕ) : Prop where
  read : decode text = .ok m
  id : ∃ id, m.id = .text id ∧ Text.Whole id
  attempt : m.attempt = .int k
  small : k < attemptLimit
  reason : ∃ reason, m.reason = reasonValue reason
  writes : ∀ (l : ℕ) (reason : Option String), l < attemptLimit →
    Message.write { m with attempt := .int l, reason := reasonValue reason }
      = .ok { m with attempt := .int l, reason := reasonValue reason }.encode

/-- A message that counts its attempts is read back for the same attempt, with the same id. -/
theorem exists_reads_encode (hwrite : p.write = .ok p.encode) {id : String}
    (hid : p.id = .text id ∧ Text.Whole id) (hattempt : p.attempt = .int k)
    (hreason : p.reason = reasonValue reason) : ∃ m, Reads p.encode m k ∧ m.id = p.id := by
  obtain ⟨m, hread⟩ := exists_read_of_write hwrite
  obtain ⟨⟨hreadid, -, -⟩, hreadattempt, hreadreason⟩ :=
    reread?_eq_some.mp (decode_encode_eq_ok.mp hread)
  -- The attempt is small enough to be read again, since it was written.
  have hsmall : k < attemptLimit := by
    have hlegible := (isLegible_toValue.mp (write_eq_ok.mp hwrite).1.2).2.1
    rw [hattempt, Json.isLegible_int] at hlegible
    exact (legible_iff_lt k).mp hlegible
  rw [hid.1, Json.reread?, Json.settledText_of_not_isHalf hid.2] at hreadid
  rw [hattempt, reread?_attempt hsmall] at hreadattempt
  rw [hreason, reread?_reasonValue] at hreadreason
  have hsame := (Option.some.inj hreadid).symm
  refine ⟨m, ⟨hread, ⟨id, hsame, hid.2⟩, (Option.some.inj hreadattempt).symm, hsmall,
    ⟨_, (Option.some.inj hreadreason).symm⟩, ?_⟩, hsame.trans hid.1.symm⟩
  intro l other hl
  rw [write_again hwrite hread, if_neg (not_le.mpr hl)]

theorem Written.exists_reads (h : Written text) : ∃ m k, Reads text m k := by
  obtain ⟨origin, id, k, reason, hwrite, hid, hattempt, hreason⟩ := h
  obtain rfl := encode_of_write hwrite
  obtain ⟨m, hreads, -⟩ := exists_reads_encode hwrite hid hattempt hreason
  exact ⟨m, k, hreads⟩

namespace Reads

variable (h : Reads text m k)
include h

theorem whole_id : Text.Whole m.id.plainText := by
  obtain ⟨id, hid, hwhole⟩ := h.id
  rw [hid]
  exact hwhole

theorem same : m.id.same m.id = true := by
  obtain ⟨id, hid, -⟩ := h.id
  simp [hid, Value.same, Value.number?, Value.text?]

/-- The message can be given up for any reason. -/
theorem writes_reason (reason : String) :
    Message.write { m with reason := .text reason }
      = .ok { m with reason := .text reason }.encode := by
  have hwrites := h.writes k (some reason) h.small
  rw [← h.attempt] at hwrites
  exact hwrites

theorem nextAttempt : m.nextAttempt = .ok { m with attempt := .int (k + 1 : ℕ) } := by
  rw [Message.nextAttempt, h.attempt]
  rfl

/-- The next attempt can be written, unless it has too many digits. -/
theorem writes_next (hk : k + 1 < attemptLimit) :
    Message.write { m with attempt := .int (k + 1 : ℕ) }
      = .ok { m with attempt := .int (k + 1 : ℕ) }.encode := by
  obtain ⟨reason, hreason⟩ := h.reason
  have hwrites := h.writes (k + 1) reason hk
  rw [← hreason] at hwrites
  exact hwrites

end Reads

/-- All texts of an issued message are such texts. -/
theorem Entry.written (h : Entry p k reason text) (hp : p.Issued issued) : Written text := by
  have hissued := hp
  obtain ⟨hwrite, number, event, now, -, hcreate⟩ := hissued
  have hid : p.id = .text s!"msg-{number}" := by rw [hcreate, create]
  have hwhole : Text.Whole s!"msg-{number}" := (ascii_idText number).not_isHalf
  cases h with
  | first =>
      refine ⟨p, _, 1, none, hwrite, ⟨hid, hwhole⟩, ?_, ?_⟩
      · rw [hcreate, create]
        rfl
      · rw [hcreate, create, reasonValue]
  | @again origin k hread hk reason =>
      refine ⟨{ origin with attempt := .int k, reason := reasonValue reason }, _, k, reason, ?_,
        ⟨(hp.read hread).1.trans hid, hwhole⟩, rfl, rfl⟩
      rw [write_again hwrite hread, if_neg (not_le.mpr hk)]

end Message

/-- The places without the text that is taken next. -/
def Board.withoutNext (now : Double) (places : Board) : Board :=
  { places.released now with pending := (places.released now).pending.dropLast }

namespace Queue

variable {q : Queue} {b t : Broker} {now stop : Double} {m : Message} {text : String} {k : ℕ}
variable {seconds : ℤ} {rest places : Board}

theorem Ledger.written {published : List Message} {bound : ℕ} (h : q.Ledger published bound b) :
    ∀ text ∈ (q.board b).texts, Message.Written text := by
  intro text htext
  obtain ⟨p, hp, k, -, reason, hentry⟩ := h.entry_of_mem htext
  exact hentry.written (h.issued p hp)

/-! ## Marks -/

/-- The same marks stand in both stores, but for the leases of these messages. -/
def SameMarks (q : Queue) (ids : List Value) (b t : Broker) : Prop :=
  ∀ key ∉ q.placeKeys, key ∉ ids.map q.lease → t.marks.lookup key = b.marks.lookup key

instance (q : Queue) (ids : List Value) : IsPreorder Broker (q.SameMarks ids) where
  refl _ _ _ _ := rfl
  trans _ _ _ h h' key hkey hid := (h' key hkey hid).trans (h key hkey hid)

theorem keptByPlaces_sameMarks (q : Queue) (now : Double) (ids : List Value) :
    q.KeptByPlaces now (q.SameMarks ids) where
  preorder := inferInstance
  refreshed place hplace b key hkey _ := by
    have hne : key ≠ place := fun heq => hkey (heq ▸ hplace)
    exact Broker.lookup_marks_refreshed hne
  list _ _ _ _ _ _ _ := rfl
  schedule _ _ _ _ _ := rfl

theorem sameMarks_without (b : Broker) (id : Value) :
    q.SameMarks [id] b (b.without (q.lease id)) := fun key _ hid =>
  Broker.lookup_marks_without (by simpa using hid)

theorem sameMarks_withMark (b : Broker) (id : Value) (stop : Double) :
    q.SameMarks [id] b (b.withMark (q.lease id) stop) := by
  intro key _ hid
  have hne : key ≠ q.lease id := by simpa using hid
  rw [Broker.lookup_marks_withMark, if_neg hne]

/-- A key that was deleted holds no mark. -/
theorem ends_delete_gone (q : Queue) (b : Broker) (key : String) :
    (q.ask (Broker.delete key)).Ends b fun result t =>
      result = .ok () → t.marks.lookup key = none := by
  have hdelete : (Broker.delete key).Ends b fun result t =>
      result = .ok () → t.marks.lookup key = none := by
    unfold Broker.delete
    by_cases hwhole : Text.Whole key
    · apply Ends.bind_ok (gives_check hwhole b)
      refine (gives_modify _ b).ends fun _ => ?_
      simp [Broker.without, Table.lookup_erase]
    · obtain ⟨fault, hrefused⟩ := gives_check_refused hwhole b
      exact Ends.bind_error hrefused fun heq => by cases heq
  by_cases hopen : q.Open b
  · exact hopen.ask_gives hdelete
  · obtain ⟨fault, hrefused⟩ := ask_refused hopen (Broker.delete key)
    exact hrefused.ends fun heq => by cases heq

/-- A release that goes through leaves no lease. -/
theorem ends_release_gone (q : Queue) (b : Broker) (now : Double) (m : Message) :
    (q.release now m).Ends b fun result t =>
      result = .ok () → t.marks.lookup (q.lease m.id) = none := by
  have hfault : ∀ (fault : Fault) (t : Broker), (.error fault : Except Fault Unit) = .ok () →
      t.marks.lookup (q.lease m.id) = none := fun fault t heq => by cases heq
  unfold release
  apply Ends.bind (P := fun _ _ => True) trivial fun fault t _ => hfault fault t
  intro texts t _
  apply Ends.bind (P := fun _ _ => True) trivial fun fault t _ => hfault fault t
  intro text? u _
  split
  next =>
    apply Ends.bind (P := fun _ _ => True) trivial fun fault t _ => hfault fault t
    exact fun _ v _ => q.ends_delete_gone v _
  next => exact q.ends_delete_gone u _

/-! ## Claims -/

variable {α : Type} {R : Broker → Broker → Prop}

theorem withoutNext_claimed {places : Board} (h : places.next? now = some text) :
    places.claimed now
      = { places.withoutNext now with processing := text :: places.processing } := by
  rw [Board.next?] at h
  rw [Board.claimed, Board.taken, h]
  rfl

/-- A claim keeps what handing out the next text keeps. -/
theorem Tidy.ends_claim_kept (h : q.Tidy b) (hname : Text.Whole q.name)
    (hplaces : q.KeptByPlaces now R)
    (hnext : (q.handOut now ((q.board b).next? now)).Preserves R) :
    (q.claim now).Ends b fun _ t => R b t := by
  have := hplaces.preorder
  have htake : (q.take now).Preserves R := hplaces.releaseDue.bind fun _ => hplaces.moveLast
  rw [claim_eq, Ends, run_bind_of_ok (h.take_result hname now)]
  exact trans_of R (htake b) (hnext _)

/-- If nothing is pending, what is due has joined, and nothing else has changed. -/
theorem Tidy.ends_claim_none (h : q.Tidy b) (hname : Text.Whole q.name)
    (hnone : (q.board b).next? now = none) :
    (q.claim now).Ends b fun result t => result = .ok .nothing ∧
      q.Becomes b t ((q.board b).released now) ∧ q.SameMarks [] b t := by
  have hmarks : (q.claim now).Ends b fun _ t => q.SameMarks [] b t := by
    apply h.ends_claim_kept hname (q.keptByPlaces_sameMarks now [])
    rw [hnone]
    exact preserves_pure _
  have hclaimed : (q.board b).claimed now = (q.board b).released now := by
    rw [Board.next?] at hnone
    rw [Board.claimed, Board.taken, hnone]
  have hplaces := h.ends_claim now
  rw [hnone, hclaimed] at hplaces
  apply (hplaces.and hmarks).mono
  rintro result t ⟨⟨hbad, -⟩ | ⟨hbecomes, hresult⟩, hmarks⟩
  · exact absurd hname hbad
  · exact ⟨hresult, hbecomes, hmarks⟩

/-- A message is claimed: its text stands before what was claimed earlier. -/
structure Held (q : Queue) (b : Broker) (text : String) (m : Message) (k : ℕ) (rest : Board) :
    Prop where
  tidy : q.Tidy b
  board : q.board b = { rest with processing := text :: rest.processing }
  name : Text.Whole q.name
  whole : ∀ text ∈ (q.board b).processing, Text.Whole text
  reads : Message.Reads text m k

theorem preserves_handOut (hread : Message.decode text = .ok m) :
    (q.handOut now (some text)).Preserves (q.SameMarks [m.id]) := by
  have hheld : (q.hold now m).Preserves (q.SameMarks [m.id]) :=
    (q.keptByPlaces_sameMarks now [m.id]).hold fun b stop => sameMarks_withMark b m.id stop
  simp only [handOut, hread, ofExcept_ok_bind]
  split
  next => exact preserves_pure _
  next =>
    apply hheld.bind
    intro _
    exact (preserves_note _ _ _).bind fun _ => preserves_pure _

theorem whole_of_written (h : Message.Written text) : Text.Whole text := by
  obtain ⟨origin, -, -, -, hwrite, -⟩ := h
  rw [Message.encode_of_write hwrite]
  exact origin.whole_encode

/-- A message whose lease can be set is claimed, and only its lease is marked. -/
theorem Tidy.ends_claim_held (h : q.Tidy b) (hname : Text.Whole q.name)
    (hwritten : ∀ text ∈ (q.board b).texts, Message.Written text)
    (hnext : (q.board b).next? now = some text) (hreads : Message.Reads text m k)
    (hlease : q.leaseSeconds = .int seconds) (hstop : markEnd now seconds = .ok stop) :
    (q.claim now).Ends b fun result t => result = .ok (.message m) ∧
      q.Held t text m k ((q.board b).withoutNext now) ∧ t.issued = b.issued ∧
        q.SameMarks [m.id] b t := by
  have hmarks : (q.claim now).Ends b fun _ t => q.SameMarks [m.id] b t := by
    apply h.ends_claim_kept hname (q.keptByPlaces_sameMarks now [m.id])
    rw [hnext]
    exact preserves_handOut hreads.read
  have hclaim := h.ends_claim_message hname hnext hreads.read hreads.whole_id hlease
  rw [hstop] at hclaim
  apply (hclaim.and hmarks).mono
  rintro result t ⟨⟨hbecomes, hresult⟩, hmarks⟩
  refine ⟨hresult, ⟨hbecomes.tidy, ?_, hname, ?_, hreads⟩, hbecomes.issued, hmarks⟩
  · rw [hbecomes.board, withoutNext_claimed hnext]
    rfl
  · intro other hother
    have hmem : other ∈ (q.board b).texts := by
      rw [← (Board.texts_claimed now _).mem_iff, ← hbecomes.board]
      exact Board.mem_texts.mpr (.inr (.inl hother))
    exact whole_of_written (hwritten other hmem)

/-! ## Settling -/

/-- A claim is settled: these are the places, and of all marks only the lease is gone. -/
structure Settled (q : Queue) (m : Message) (places : Board) (b t : Broker) : Prop where
  becomes : q.Becomes b t places
  marks : q.SameMarks [m.id] b t
  lease : t.marks.lookup (q.lease m.id) = none

theorem Settled.queued (h : q.Settled m places b t) (text : String) :
    q.Settled m (places.queued text) b (t.withList q.pending (text :: t.list q.pending)) := by
  have hqueued := h.becomes.tidy.becomes_pending (text :: t.list q.pending)
  have hpending : t.list q.pending = places.pending := congrArg Board.pending h.becomes.board
  rw [h.becomes.board, hpending] at hqueued
  rw [hpending]
  exact ⟨h.becomes.trans hqueued, h.marks, h.lease⟩

theorem Settled.buried (h : q.Settled m places b t) (text : String) :
    q.Settled m (places.buried text) b (t.withList q.dead (text :: t.list q.dead)) := by
  have hburied := h.becomes.tidy.becomes_dead (text :: t.list q.dead)
  have hdead : t.list q.dead = places.dead := congrArg Board.dead h.becomes.board
  rw [h.becomes.board, hdead] at hburied
  rw [hdead]
  exact ⟨h.becomes.trans hburied, h.marks, h.lease⟩

/-- A message is found among the claimed ones by its text, without which these are the places. -/
structure Located (q : Queue) (b : Broker) (text : String) (m : Message) (k : ℕ) (rest : Board) :
    Prop where
  tidy : q.Tidy b
  name : Text.Whole q.name
  whole : ∀ text ∈ (q.board b).processing, Text.Whole text
  reads : Message.Reads text m k
  find : findText m.id (q.board b).processing = .ok (some text)
  board : (q.board b).dropped (some text) = rest

/-- The text of a claim is found first. -/
theorem Held.located (h : q.Held b text m k rest) : q.Located b text m k rest where
  tidy := h.tidy
  name := h.name
  whole := h.whole
  reads := h.reads
  find := by
    -- It stands at the head, so that no other text is read, not even one with the same id.
    rw [h.board, Queue.findText, h.reads.read, Json.ok_bind, if_pos h.reads.same]
    rfl
  board := by
    rw [h.board]
    simp [Board.dropped]

namespace Located

variable (h : q.Located b text m k rest)
include h

theorem ends_release (now : Double) :
    (q.release now m).Ends b fun result t => result = .ok () ∧ q.Settled m rest b t := by
  have hplaces := h.tidy.ends_release_of_find h.name now ⟨h.reads.whole_id, h.whole⟩ h.find
  have hmarks := (q.keptByPlaces_sameMarks now [m.id]).release
    (fun b => sameMarks_without b m.id) b
  rw [h.board] at hplaces
  apply (hplaces.and (Ends.and hmarks (q.ends_release_gone b now m))).mono
  rintro result t ⟨⟨rfl, hbecomes⟩, hmarks, hgone⟩
  exact ⟨rfl, hbecomes, hmarks, hgone rfl⟩

theorem ends_complete (now : Double) :
    (q.complete now m).Ends b fun result t => result = .ok () ∧ q.Settled m rest b t :=
  h.ends_release now

theorem ends_bury (now : Double) (reason : String) :
    (q.bury now m (.text reason)).Ends b fun result t => result = .ok () ∧
      q.Settled m (rest.buried { m with reason := .text reason }.encode) b t := by
  unfold bury
  apply (h.ends_release now).bind
  · rintro fault t ⟨heq, -⟩
    cases heq
  rintro ⟨⟩ t ⟨-, hsettled⟩
  rw [h.reads.writes_reason reason]
  apply Ends.bind_ok (gives_ofExcept _ t)
  have htidy := hsettled.becomes.tidy
  apply Ends.bind_ok (htidy.ask_gives
    (htidy.gives_push h.name (by simp [listKeys]) (Message.whole_encode _) now))
  exact (gives_note _ _ _ _).ends ⟨rfl, hsettled.buried _⟩

theorem ends_retry (now : Double) (hk : k + 1 < Message.attemptLimit) :
    (q.retry now m).Ends b fun result t =>
      result = .ok { m with attempt := .int (k + 1 : ℕ) } ∧
        q.Settled m (rest.queued { m with attempt := .int (k + 1 : ℕ) }.encode) b t := by
  unfold retry
  apply (h.ends_release now).bind
  · rintro fault t ⟨heq, -⟩
    cases heq
  rintro ⟨⟩ t ⟨-, hsettled⟩
  rw [h.reads.nextAttempt]
  apply Ends.bind_ok (gives_ofExcept _ t)
  rw [h.reads.writes_next hk]
  apply Ends.bind_ok (gives_ofExcept _ t)
  have htidy := hsettled.becomes.tidy
  apply Ends.bind_ok (htidy.ask_gives
    (htidy.gives_push h.name (by simp [listKeys]) (Message.whole_encode _) now))
  apply Ends.bind_ok (gives_note _ _ _ _)
  exact (gives_pure _ _).ends ⟨rfl, hsettled.queued _⟩

end Located

end Queue

end CaseWorkflow
