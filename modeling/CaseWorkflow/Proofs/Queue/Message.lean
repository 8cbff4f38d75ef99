import CaseWorkflow.Proofs.Json.Ascii
import CaseWorkflow.Proofs.Json.Plain
import CaseWorkflow.Queue.Message

/-!
# Messages and their texts

What is read of the text of a message is the message with its parts settled.  A message
that was read once therefore keeps its id, its event and its time through all later
texts, in which only the attempt and the reason differ.
-/

namespace CaseWorkflow

open Json

namespace Message

/-! ## Reading a text of a message -/

/-- How many lists and objects may stand in each other in a part of a message. -/
def partDepth : ℕ := depthLimit - 1

/-- What is read of the text of a message, part by part. -/
def reread? (m : Message) : Option Message :=
  (Json.reread? m.id partDepth).bind fun id =>
    (Json.reread? m.event partDepth).bind fun event =>
      (Json.reread? m.enqueuedAt partDepth).bind fun enqueuedAt =>
        (Json.reread? m.attempt partDepth).bind fun attempt =>
          (Json.reread? m.reason partDepth).map fun reason =>
            ⟨id, event, enqueuedAt, attempt, reason⟩

theorem settledText_parts : ∀ name ∈ parts, settledText name = name := by
  intro name hname
  apply settledText_ascii
  revert name
  decide

theorem reread?_toValue (m : Message) :
    Json.reread? m.toValue depthLimit = m.reread?.map toValue := by
  have hkey : ∀ name, name ∈ parts → settledText name = name := settledText_parts
  rw [toValue, Json.reread?, if_neg (by decide), show depthLimit - 1 = partDepth from rfl]
  simp only [rereadEntries?, reread?, hkey "id" (by decide), hkey "event" (by decide),
    hkey "enqueued_at" (by decide), hkey "attempt" (by decide),
    hkey "dead_letter_reason" (by decide)]
  cases Json.reread? m.id partDepth with
  | none => rfl
  | some id =>
  cases Json.reread? m.event partDepth with
  | none => rfl
  | some event =>
  cases Json.reread? m.enqueuedAt partDepth with
  | none => rfl
  | some enqueuedAt =>
  cases Json.reread? m.attempt partDepth with
  | none => rfl
  | some attempt =>
  cases Json.reread? m.reason partDepth with
  | none => rfl
  | some reason => rfl

/-- The text of a message is read part by part. -/
theorem decode_encode (m : Message) : (decode m.encode).toOption = m.reread? := by
  have h := read_write m.toValue
  rw [reread?_toValue, ← encode] at h
  rw [decode]
  cases hread : read m.encode with
  | error error =>
      rw [hread] at h
      exact (Option.map_eq_none_iff.mp h.symm).symm
  | ok v =>
      rw [hread] at h
      obtain ⟨settled, hsettled, rfl⟩ := Option.map_eq_some_iff.mp h.symm
      rw [hsettled]
      rfl

theorem decode_encode_eq_ok {m read : Message} :
    decode m.encode = .ok read ↔ m.reread? = some read := by
  rw [← decode_encode]
  cases decode m.encode with
  | error fault => simp [Except.toOption]
  | ok other => simp [Except.toOption]

theorem reread?_eq_some {m read : Message} :
    m.reread? = some read ↔
      (Json.reread? m.id partDepth = some read.id ∧
        Json.reread? m.event partDepth = some read.event ∧
        Json.reread? m.enqueuedAt partDepth = some read.enqueuedAt) ∧
      Json.reread? m.attempt partDepth = some read.attempt ∧
      Json.reread? m.reason partDepth = some read.reason := by
  obtain ⟨id, event, enqueuedAt, attempt, reason⟩ := read
  simp only [reread?, Option.bind_eq_some_iff, Option.map_eq_some_iff, Message.mk.injEq]
  constructor
  · rintro ⟨_, hid, _, hevent, _, henqueuedAt, _, hattempt, _, hreason, rfl, rfl, rfl, rfl, rfl⟩
    exact ⟨⟨hid, hevent, henqueuedAt⟩, hattempt, hreason⟩
  · rintro ⟨⟨hid, hevent, henqueuedAt⟩, hattempt, hreason⟩
    exact ⟨_, hid, _, hevent, _, henqueuedAt, _, hattempt, _, hreason, rfl, rfl, rfl, rfl, rfl⟩

/-- A message that was read keeps its parts through later texts; only the attempt and the
reason are its own. -/
theorem decode_encode_again {p m : Message} (hread : decode p.encode = .ok m)
    {attempt reason attempt' reason' : Value}
    (hattempt : Json.reread? attempt partDepth = some attempt')
    (hreason : Json.reread? reason partDepth = some reason') :
    decode { m with attempt, reason }.encode
      = .ok { m with attempt := attempt', reason := reason' } := by
  obtain ⟨⟨hid, hevent, henqueuedAt⟩, -⟩ := reread?_eq_some.mp (decode_encode_eq_ok.mp hread)
  apply decode_encode_eq_ok.mpr
  apply reread?_eq_some.mpr
  exact ⟨⟨settled_of_reread? hid, settled_of_reread? hevent, settled_of_reread? henqueuedAt⟩,
    hattempt, hreason⟩

/-! ## Writing a message -/

theorem depth_toValue_le {m : Message} {n : ℕ} :
    depth m.toValue ≤ n + 1 ↔ (depth m.id ≤ n ∧ depth m.event ≤ n ∧ depth m.enqueuedAt ≤ n) ∧
      depth m.attempt ≤ n ∧ depth m.reason ≤ n := by
  simp only [toValue, depth, entriesDepth, Nat.add_le_add_iff_right, max_le_iff, Nat.zero_le,
    and_true]
  tauto

theorem isLegible_toValue {m : Message} :
    isLegible m.toValue = true ↔
      (isLegible m.id = true ∧ isLegible m.event = true ∧ isLegible m.enqueuedAt = true) ∧
        isLegible m.attempt = true ∧ isLegible m.reason = true := by
  simp only [toValue, isLegible, haveLegible, Bool.and_eq_true, and_true]
  tauto

theorem write_eq_ok {m : Message} {text : String} :
    m.write = .ok text ↔
      (depth m.toValue ≤ writtenDepth ∧ isLegible m.toValue = true) ∧ text = m.encode := by
  unfold write
  split
  next hdeep => simp [not_le.mpr hdeep]
  next hshallow =>
    split
    next hlegible => simp [not_lt.mp hshallow, hlegible, eq_comm]
    next hlarge => simp [hlarge]

theorem encode_of_write {m : Message} {text : String} (h : m.write = .ok text) :
    text = m.encode := (write_eq_ok.mp h).2

/-! ## Messages with ids that were given out -/

/-- The message was created with one of the first ids, and can be written. -/
def Issued (issued : ℕ) (p : Message) : Prop :=
  p.write = .ok p.encode ∧
    ∃ number event now, number ≤ issued ∧ p = create s!"msg-{number}" event now

theorem toList_idText (number : ℕ) :
    (s!"msg-{number}").toList = "msg-".toList ++ Nat.toDigits 10 number := by
  change ("msg-" ++ number.repr).toList = _
  rw [String.toList_append, Nat.toList_repr]

theorem idText_injective {a b : ℕ} (h : s!"msg-{a}" = s!"msg-{b}") : a = b :=
  append_repr_injective h

theorem ascii_idText (number : ℕ) : Ascii (s!"msg-{number}").toList := by
  rw [toList_idText]
  exact Ascii.append_toDigits (by decide) number

theorem settledText_idText (number : ℕ) : settledText s!"msg-{number}" = s!"msg-{number}" :=
  settledText_ascii (ascii_idText number)

theorem Issued.mono {p : Message} {issued later : ℕ} (h : p.Issued issued)
    (hle : issued ≤ later) : p.Issued later := by
  obtain ⟨hwrite, number, event, now, hnumber, rfl⟩ := h
  exact ⟨hwrite, number, event, now, hnumber.trans hle, rfl⟩

/-- The least attempt with more digits than are written. -/
@[irreducible]
def attemptLimit : ℕ := Nat.pow 10 NumberText.digitLimit

theorem attemptLimit_eq : attemptLimit = 10 ^ NumberText.digitLimit := by
  unfold attemptLimit
  generalize NumberText.digitLimit = digits
  exact Nat.pow_eq

theorem legible_iff_lt (k : ℕ) : Legible k ↔ k < attemptLimit := by
  rw [Legible, Int.natAbs_natCast, attemptLimit_eq]

/-- A number of one digit is far below the limit. -/
theorem lt_attemptLimit {n : ℕ} (h : n < 10) : n < attemptLimit := by
  rw [attemptLimit_eq]
  calc
    n < 10 ^ 1 := h
    _ ≤ 10 ^ NumberText.digitLimit := Nat.pow_le_pow_right (by decide) (by decide)

theorem one_lt_attemptLimit : 1 < attemptLimit := lt_attemptLimit (by decide)

theorem depth_toValue_create (id : String) (event : Event) (now : Double) :
    depth (create id event now).toValue = depth event.toValue + 1 := by
  simp [toValue, create, depth, entriesDepth]

theorem isLegible_toValue_create (id : String) (event : Event) (now : Double) :
    isLegible (create id event now).toValue = isLegible event.toValue := by
  have hone : isLegible (.int 1) = true :=
    (isLegible_int 1).mpr ((legible_iff_lt 1).mpr one_lt_attemptLimit)
  have htext : isLegible (.text id) = true := rfl
  have htime : isLegible (.float now) = true := rfl
  have hnull : isLegible .null = true := rfl
  rw [Bool.eq_iff_iff, isLegible_toValue]
  simp only [create, hone, htext, htime, hnull, true_and, and_true]

/-- An issued message is read with its id, as a first attempt and without a reason. -/
theorem Issued.read {p m : Message} {issued : ℕ} (h : p.Issued issued)
    (hread : decode p.encode = .ok m) :
    m.id = p.id ∧ m.attempt = .int 1 ∧ m.reason = .null := by
  obtain ⟨-, number, event, now, -, rfl⟩ := h
  obtain ⟨⟨hid, -, -⟩, hattempt, hreason⟩ := reread?_eq_some.mp (decode_encode_eq_ok.mp hread)
  simp only [create, Json.reread?, settledText_idText] at hid hreason
  have hlegible : Legible 1 := (legible_iff_lt 1).mpr one_lt_attemptLimit
  rw [create, Json.reread?, if_pos hlegible] at hattempt
  exact ⟨(Option.some.inj hid).symm, (Option.some.inj hattempt).symm,
    (Option.some.inj hreason).symm⟩

/-- What was written is read: a text may nest deeper than what is written. -/
theorem exists_read_of_write {p : Message} (h : p.write = .ok p.encode) :
    ∃ m, decode p.encode = .ok m := by
  obtain ⟨hdepth, hlegible⟩ := (write_eq_ok.mp h).1
  have hlimits : writtenDepth ≤ depthLimit := by decide
  obtain ⟨w, hw⟩ := exists_reread? (hdepth.trans hlimits) hlegible
  rw [reread?_toValue, Option.map_eq_some_iff] at hw
  obtain ⟨m, hm, -⟩ := hw
  exact ⟨m, decode_encode_eq_ok.mpr hm⟩

theorem Issued.exists_read {p : Message} {issued : ℕ} (h : p.Issued issued) :
    ∃ m, decode p.encode = .ok m :=
  exists_read_of_write h.1

theorem toList_encode_create (id : String) (event : Event) (now : Double) :
    ∃ rest, (create id event now).encode.toList
      = '\x7b' :: ((writeText "id").toList ++ ':' :: ' ' :: ((writeText id).toList ++ rest)) := by
  rw [encode, toValue, toList_write_object, entryChars_cons_cons]
  exact ⟨_, by simp only [List.append_assoc, List.cons_append]; rfl⟩

/-- The first texts of issued messages differ when their ids do. -/
theorem Issued.id_eq_of_encode_eq {p q : Message} {issued : ℕ} (hp : p.Issued issued)
    (hq : q.Issued issued) (h : p.encode = q.encode) : p.id = q.id := by
  obtain ⟨-, a, event, now, -, rfl⟩ := hp
  obtain ⟨-, b, event', now', -, rfl⟩ := hq
  obtain ⟨rest, hrest⟩ := toList_encode_create s!"msg-{a}" event now
  obtain ⟨rest', hrest'⟩ := toList_encode_create s!"msg-{b}" event' now'
  rw [h, hrest'] at hrest
  have hquoted := List.append_cancel_left (List.cons.inj hrest).2
  have htexts := (List.cons.inj (List.cons.inj hquoted).2).2
  rw [toList_writeText, toList_writeText] at htexts
  have hwritten := (List.cons.inj htexts).2
  -- Reading the id ends at its closing quote on both sides.
  let fuel := (s!"msg-{a}").toList.length + (s!"msg-{b}").toList.length + 1
  have hread := readText_written s!"msg-{a}" rest fuel (by omega)
  have hread' := readText_written s!"msg-{b}" rest' fuel (by omega)
  rw [hwritten, hread, settledText_idText, settledText_idText] at hread'
  simp only [Except.ok.injEq, Prod.mk.injEq] at hread'
  simp only [create, hread'.1]

/-! ## Entries and copies of a message -/

/-- The reason of a message that may have been given up. -/
def reasonValue : Option String → Value
  | none => .null
  | some reason => .text reason

/-- The texts of a message: the one that was written first, and those written later of
what was read of it. -/
inductive Entry (p : Message) : ℕ → Option String → String → Prop
  | first : Entry p 1 none p.encode
  | again {m : Message} {k : ℕ} (hread : decode p.encode = .ok m) (hk : k < attemptLimit)
      (reason : Option String) :
      Entry p k reason { m with attempt := .int k, reason := reasonValue reason }.encode

/-- What a worker holds of a message for one of its attempts. -/
def Copy (p : Message) (k : ℕ) (c : Message) : Prop :=
  ∃ m, decode p.encode = .ok m ∧ k < attemptLimit ∧
    c = { m with attempt := .int k, reason := .null }

/-- Whether a text stands for the message: the text that was written first, or any that is
read as a message with its id. -/
def owns (p : Message) (text : String) : Bool :=
  text == p.encode || match decode text with
    | .ok m => m.id.same p.id
    | .error _ => false

/-- The event and the time that are read of a text. -/
def payload (text : String) : Except Fault (Value × Value) :=
  (decode text).map fun m => (m.event, m.enqueuedAt)

section Entries

variable {p q c m : Message} {k issued : ℕ} {reason : Option String} {text : String}

theorem reread?_attempt (hk : k < attemptLimit) :
    Json.reread? (.int k) partDepth = some (.int k) := by
  rw [Json.reread?, if_pos ((legible_iff_lt k).mpr hk)]

theorem reread?_reasonValue (reason : Option String) :
    Json.reread? (reasonValue reason) partDepth
      = some (reasonValue (reason.map settledText)) := by
  cases reason <;> rfl

/-- What was read of a message that could be written is written again, unless its attempt has
too many digits. -/
theorem write_again (hwrite : p.write = .ok p.encode) (hread : decode p.encode = .ok m)
    (k : ℕ) (reason : Option String) :
    Message.write { m with attempt := .int k, reason := reasonValue reason }
      = if attemptLimit ≤ k then .error (.number .tooManyToWrite)
        else .ok { m with attempt := .int k, reason := reasonValue reason }.encode := by
  obtain ⟨⟨hid, hevent, htime⟩, -⟩ := reread?_eq_some.mp (decode_encode_eq_ok.mp hread)
  obtain ⟨hiddepth, hidlegible⟩ := writable_of_reread? hid
  obtain ⟨heventdepth, heventlegible⟩ := writable_of_reread? hevent
  obtain ⟨htimedepth, htimelegible⟩ := writable_of_reread? htime
  obtain ⟨⟨hpid, hpevent, hptime⟩, -⟩ :=
    depth_toValue_le.mp (write_eq_ok.mp hwrite).1.1
  have hreason : depth (reasonValue reason) = 0 ∧ isLegible (reasonValue reason) = true := by
    cases reason <;> exact ⟨rfl, rfl⟩
  have hdepth : depth (toValue { m with attempt := .int k, reason := reasonValue reason })
      ≤ writtenDepth :=
    depth_toValue_le.mpr ⟨⟨hiddepth.trans hpid, heventdepth.trans hpevent,
      htimedepth.trans hptime⟩, Nat.zero_le _, hreason.1 ▸ Nat.zero_le _⟩
  have hlegible : isLegible (toValue { m with attempt := .int k, reason := reasonValue reason })
      = true ↔ ¬attemptLimit ≤ k := by
    rw [isLegible_toValue, not_le, ← legible_iff_lt, ← isLegible_int]
    simp [hidlegible, heventlegible, htimelegible, hreason.2]
  rw [Message.write, if_neg (not_lt.mpr hdepth)]
  by_cases hk : attemptLimit ≤ k
  · rw [if_neg fun h => hlegible.mp h hk, if_pos hk]
  · rw [if_pos (hlegible.mpr hk), if_neg hk]

theorem Entry.read (h : Entry p k reason text) (hp : p.Issued issued)
    (hread : decode text = .ok m) :
    ∃ origin reason', decode p.encode = .ok origin ∧ k < attemptLimit ∧
      m = { origin with attempt := .int k, reason := reasonValue reason' } ∧
      (reason = none → reason' = none) := by
  cases h with
  | first =>
      obtain ⟨-, hattempt, hreason⟩ := hp.read hread
      refine ⟨m, none, hread, one_lt_attemptLimit, ?_, fun _ => rfl⟩
      rw [show reasonValue none = m.reason from hreason.symm,
        show Value.int ((1 : ℕ) : ℤ) = m.attempt from hattempt.symm]
  | @again origin _ horigin hk _ =>
      rw [decode_encode_again horigin (reread?_attempt hk) (reread?_reasonValue reason)] at hread
      refine ⟨origin, reason.map settledText, horigin, hk, (Except.ok.inj hread).symm, ?_⟩
      rintro rfl
      rfl

/-- Only the first text of a message can be one that is not read. -/
theorem Entry.unread (h : Entry p k reason text) {fault : Fault}
    (hread : decode text = .error fault) : text = p.encode ∧ k = 1 ∧ reason = none := by
  cases h with
  | first => exact ⟨rfl, rfl, rfl⟩
  | @again origin _ horigin hk _ =>
      rw [decode_encode_again horigin (reread?_attempt hk) (reread?_reasonValue reason)] at hread
      cases hread

theorem Entry.id_eq (h : Entry p k reason text) (hp : p.Issued issued)
    (hread : decode text = .ok m) : m.id = p.id := by
  obtain ⟨origin, _, horigin, -, rfl, -⟩ := h.read hp hread
  exact (hp.read horigin).1

/-- A text is written for one attempt only. -/
theorem Entry.attempt_eq {l : ℕ} {reason' : Option String} (h : Entry p k reason text)
    (h' : Entry p l reason' text) (hp : p.Issued issued) : k = l := by
  cases hread : decode text with
  | error fault => rw [(h.unread hread).2.1, (h'.unread hread).2.1]
  | ok m =>
      obtain ⟨origin, _, horigin, -, hm, -⟩ := h.read hp hread
      obtain ⟨origin', _, -, -, hm', -⟩ := h'.read hp hread
      rw [hm'] at hm
      exact Int.ofNat.inj (Value.int.inj (congrArg Message.attempt hm)).symm

/-- A text that is read carries its attempt. -/
theorem Entry.attempt_of_read (h : Entry p k reason text) (hp : p.Issued issued)
    (hread : decode text = .ok m) : m.attempt = .int k := by
  obtain ⟨origin, _, -, -, rfl, -⟩ := h.read hp hread
  rfl

theorem Entry.payload_eq (h : Entry p k reason text) (hp : p.Issued issued) :
    payload text = payload p.encode := by
  cases hread : decode text with
  | error fault => rw [(h.unread hread).1]
  | ok m =>
      obtain ⟨origin, _, horigin, -, rfl, -⟩ := h.read hp hread
      rw [payload, payload, hread, horigin]
      rfl

/-- A claimed text of a message gives a copy of it. -/
theorem Entry.copy (h : Entry p k none text) (hp : p.Issued issued) (hread : decode text = .ok m) :
    Copy p k m := by
  obtain ⟨origin, reason', horigin, hk, rfl, hreason⟩ := h.read hp hread
  rw [hreason rfl]
  exact ⟨origin, horigin, hk, rfl⟩

/-- Each text of an issued message is read. -/
theorem Entry.exists_read (h : Entry p k reason text) (hp : p.Issued issued) :
    ∃ m, decode text = .ok m := by
  cases hread : decode text with
  | ok m => exact ⟨m, rfl⟩
  | error fault =>
      obtain ⟨m, hm⟩ := hp.exists_read
      obtain ⟨rfl, -, -⟩ := h.unread hread
      rw [hread] at hm
      cases hm

theorem Copy.id_eq (h : Copy p k c) (hp : p.Issued issued) : c.id = p.id := by
  obtain ⟨origin, horigin, -, rfl⟩ := h
  exact (hp.read horigin).1

theorem Copy.nextAttempt (h : Copy p k c) :
    c.nextAttempt = .ok { c with attempt := .int (k + 1 : ℕ) } := by
  obtain ⟨origin, -, -, rfl⟩ := h
  rfl

/-- The next attempt is written, unless it has too many digits. -/
theorem Copy.write (h : Copy p k c) (hp : p.Issued issued) :
    (k + 1 < attemptLimit →
      ∃ text, Message.write { c with attempt := .int (k + 1 : ℕ) } = .ok text ∧
        Copy p (k + 1) { c with attempt := .int (k + 1 : ℕ) } ∧ Entry p (k + 1) none text) ∧
      (attemptLimit ≤ k + 1 →
        ∃ fault, Message.write { c with attempt := .int (k + 1 : ℕ) } = .error fault) := by
  obtain ⟨origin, horigin, -, rfl⟩ := h
  have hwrite := write_again hp.1 horigin (k + 1) none
  rw [reasonValue] at hwrite
  rw [hwrite]
  constructor
  · intro hk
    rw [if_neg (not_le.mpr hk)]
    exact ⟨_, rfl, ⟨origin, horigin, hk, rfl⟩, .again horigin hk none⟩
  · intro hk
    rw [if_pos hk]
    exact ⟨_, rfl⟩

theorem Copy.buried (h : Copy p k c) (hp : p.Issued issued) (reason : String) :
    ∃ text, Message.write { c with reason := .text reason } = .ok text ∧
      Entry p k (some reason) text := by
  obtain ⟨origin, horigin, hk, rfl⟩ := h
  have hwrite := write_again hp.1 horigin k (some reason)
  rw [reasonValue, if_neg (not_le.mpr hk)] at hwrite
  exact ⟨_, hwrite, .again horigin hk (some reason)⟩

theorem Issued.same_id_iff (hp : p.Issued issued) (hq : q.Issued issued) :
    q.id.same p.id = true ↔ q.id = p.id := by
  obtain ⟨-, a, event, now, -, rfl⟩ := hp
  obtain ⟨-, b, event', now', -, rfl⟩ := hq
  simp [create, Value.same, Value.number?, Value.text?]

theorem Entry.owns (h : Entry p k reason text) (hp : p.Issued issued) : p.owns text = true := by
  cases hread : decode text with
  | error fault =>
      obtain ⟨rfl, -, -⟩ := h.unread hread
      simp [Message.owns]
  | ok m =>
      have hid : m.id.same p.id = true := by
        rw [h.id_eq hp hread]
        exact (hp.same_id_iff hp).mpr rfl
      simp [Message.owns, hread, hid]

/-- The text of an issued message stands for no other one. -/
theorem Entry.id_eq_of_owns (h : Entry p k reason text) (hp : p.Issued issued)
    (hq : q.Issued issued) (howns : q.owns text = true) : p.id = q.id := by
  simp only [Message.owns, Bool.or_eq_true, beq_iff_eq] at howns
  cases hread : decode text with
  | error fault =>
      rw [hread] at howns
      obtain ⟨rfl, -, -⟩ := h.unread hread
      exact hp.id_eq_of_encode_eq hq (howns.resolve_right Bool.false_ne_true)
  | ok m =>
      rw [hread] at howns
      have hid := h.id_eq hp hread
      rcases howns with rfl | hsame
      · rw [← hid, (hq.read hread).1]
      · change m.id.same q.id = true at hsame
        rw [hid] at hsame
        exact (hq.same_id_iff hp).mp hsame

end Entries

end Message

end CaseWorkflow
