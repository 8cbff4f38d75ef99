import CaseWorkflow.Proofs.Queue.Message
import CaseWorkflow.Proofs.Registry.Reading

/-!
# Events on their way through a queue

A message is written if it neither nests too deep nor has an integer with too many digits.  If
its parts are plain it is then read as it was written, and the event that it carries is the
event that it was made of.
-/

namespace CaseWorkflow

open Json

namespace Message

/-- The parts of the message are plain. -/
structure AllPlain (m : Message) : Prop where
  id : Plain m.id
  event : Plain m.event
  enqueuedAt : Plain m.enqueuedAt
  attempt : Plain m.attempt
  reason : Plain m.reason

variable {m : Message} {text : String}

theorem plain_reasonValue {reason : Option String} (h : ∀ s ∈ reason, settledText s = s) :
    Plain (reasonValue reason) := by
  cases reason with
  | none => exact .null
  | some s => exact .text (h s rfl)

theorem AllPlain.decode (h : m.AllPlain) (hwrite : m.write = .ok text) :
    Message.decode text = .ok m := by
  obtain ⟨⟨hdepth, hlegible⟩, rfl⟩ := write_eq_ok.mp hwrite
  obtain ⟨⟨hid, hevent, htime⟩, hattempt, hreason⟩ :=
    depth_toValue_le.mp (hdepth.trans (show writtenDepth ≤ partDepth + 1 by decide))
  obtain ⟨⟨hid', hevent', htime'⟩, hattempt', hreason'⟩ := isLegible_toValue.mp hlegible
  apply decode_encode_eq_ok.mpr
  apply reread?_eq_some.mpr
  exact ⟨⟨h.id.settled hid hid', h.event.settled hevent hevent',
    h.enqueuedAt.settled htime htime'⟩, h.attempt.settled hattempt hattempt',
    h.reason.settled hreason hreason'⟩

/-- The message of an event, for some attempt and with some reason. -/
def carrying (id : String) (event : Event) (now : Double) (attempt : ℤ) (reason : Option String) :
    Message :=
  { create id event now with attempt := .int attempt, reason := reasonValue reason }

section Carrying

variable {id : String} {event : Event} {now : Double} {attempt : ℤ} {reason : Option String}

/-- The event nests less deep than what is written may, and neither it nor the attempt has too
many digits. -/
def Portable (event : Event) (attempt : ℤ) : Prop :=
  (depth event.toValue < writtenDepth ∧ isLegible event.toValue = true) ∧ Legible attempt

theorem depth_toValue_carrying :
    depth (carrying id event now attempt reason).toValue = depth event.toValue + 1 := by
  cases reason <;> simp [carrying, create, reasonValue, toValue, depth, entriesDepth]

theorem isLegible_toValue_carrying :
    isLegible (carrying id event now attempt reason).toValue = true ↔
      isLegible event.toValue = true ∧ Legible attempt := by
  have htext : isLegible (.text id) = true := rfl
  have htime : isLegible (.float now) = true := rfl
  have hreason : isLegible (reasonValue reason) = true := by
    cases reason <;> rfl
  rw [isLegible_toValue, ← isLegible_int]
  simp [carrying, create, htext, htime, hreason]

theorem write_carrying_eq_ok :
    (carrying id event now attempt reason).write = .ok text ↔
      Portable event attempt ∧ text = (carrying id event now attempt reason).encode := by
  rw [write_eq_ok, depth_toValue_carrying, isLegible_toValue_carrying, Nat.succ_le_iff]
  simp [Portable, and_assoc]

theorem write_carrying_eq_error (h : ¬Portable event attempt) :
    ∃ fault, (carrying id event now attempt reason).write = .error fault := by
  cases hwrite : (carrying id event now attempt reason).write with
  | error fault => exact ⟨fault, rfl⟩
  | ok text => exact absurd (write_carrying_eq_ok.mp hwrite).1 h

theorem plain_carrying (hid : settledText id = id) (hevent : Plain event.toValue)
    (hreason : ∀ s ∈ reason, settledText s = s) :
    (carrying id event now attempt reason).AllPlain where
  id := .text hid
  event := hevent
  enqueuedAt := .float now
  attempt := .int attempt
  reason := plain_reasonValue hreason

end Carrying

/-! ## Two events -/

/-- A hearing at half past nine, three hours behind universal time. -/
def hearingTime : Moment where
  date := ⟨2024, 5, 10, by decide⟩
  time := 34200250000
  offset := some (-10800000000)
  time_lt := by decide
  offset_lt := by decide

/-- The entity of a hearing: texts that are escaped, and values in each other. -/
def hearingEntity : Entries :=
  [("note", .text "said \"no\" \\ 😀\n"),
    ("parts", .list [.null, .bool true, .int (-3), .object [("é", .list [])]])]

def hearingEvent : Event := ⟨"7", .hearingApproaching, hearingEntity, [], hearingTime⟩

/-- The hearing as data: its id is a number, and it has no context. -/
def hearingData : Value :=
  .object [("id", .int 7), ("type", .text "audiencia_proxima"), ("entity", .object hearingEntity),
    ("occurred_at", .text "2024-05-10T09:30:00.250000-03:00")]

theorem plain_hearingEntity : Plain (.object hearingEntity) := by
  have hnote : settledText "said \"no\" \\ 😀\n" = "said \"no\" \\ 😀\n" := by decide +kernel
  have hempty : Plain (.object [("é", .list [])]) :=
    .object (by decide) (by decide +kernel) (by simp [Plain.list])
  apply Plain.object
  · decide
  · decide +kernel
  · simp only [hearingEntity, List.forall_mem_cons, List.not_mem_nil, false_imp_iff, implies_true,
      and_true]
    refine ⟨.text hnote, .list ?_⟩
    simp [Plain.null, Plain.bool, Plain.int, hempty]

theorem gives_hearingEvent (clock : Clock) (desk : Desk) :
    (Desk.readEvent clock hearingData).Gives desk (.ok hearingEvent) desk := by
  have htime : Iso.readZoned? "2024-05-10T09:30:00.250000-03:00" = some hearingTime := by
    decide +kernel
  have hdraft : Event.Draft.read hearingData
      = .ok ⟨some "7", .hearingApproaching, hearingEntity, [], some hearingTime⟩ := by
    apply Event.Draft.read_object_eq_ok.mpr
    refine ⟨⟨by decide +kernel, rfl, rfl⟩, rfl, ?_⟩
    change Event.readTime? (.text "2024-05-10T09:30:00.250000-03:00") = _
    rw [Event.readTime?, if_pos (by decide), Event.readTimestamp]
    simp only [Value.text?, htime]
    rfl
  exact Desk.gives_readEvent hdraft _ _

theorem complete_hearingEvent : hearingEvent.Complete where
  named := by decide
  zoned := ⟨-10800000000, rfl, .inr (by decide)⟩

theorem portable_hearingEvent : Portable hearingEvent 3 :=
  ⟨⟨by decide +kernel, by decide +kernel⟩, by decide +kernel⟩

/-- The message of a hearing, for some attempt. -/
def hearingMessage (number : ℕ) (now : Double) (k : ℕ) : Message :=
  carrying s!"msg-{number}" hearingEvent now k none

/-- The message of a hearing is written, and read as it was. -/
theorem decode_hearingMessage (number : ℕ) (now : Double) {k : ℕ} (h : k < attemptLimit) :
    (hearingMessage number now k).write = .ok (hearingMessage number now k).encode ∧
      decode (hearingMessage number now k).encode = .ok (hearingMessage number now k) := by
  have hid : settledText hearingEvent.id = hearingEvent.id := by decide +kernel
  have hcontext : Plain (.object hearingEvent.context) :=
    .object (by decide) (by simp [Table.keys, hearingEvent]) (by simp [hearingEvent])
  have hreason : ∀ s ∈ (none : Option String), settledText s = s := by simp
  have hwrite : (hearingMessage number now k).write = .ok (hearingMessage number now k).encode :=
    write_carrying_eq_ok.mpr ⟨⟨portable_hearingEvent.1, (legible_iff_lt k).mpr h⟩, rfl⟩
  have hplain : (hearingMessage number now k).AllPlain :=
    plain_carrying (settledText_idText number)
      (Event.plain_toValue hid plain_hearingEntity hcontext) hreason
  exact ⟨hwrite, hplain.decode hwrite⟩

/-- A null in so many lists. -/
def nested : ℕ → Value
  | 0 => .null
  | n + 1 => .list [nested n]

theorem plain_nested (n : ℕ) : Plain (nested n) := by
  induction n with
  | zero => exact .null
  | succ n ih => exact .list (by simpa using ih)

theorem depth_nested (n : ℕ) : depth (nested n) = n := by
  induction n with
  | zero => rfl
  | succ n ih => simp [nested, depth, itemsDepth, ih]

/-- An event whose entity nests deep. -/
def deepEvent : Event := ⟨"8", .commentAdded, [("v", nested writtenDepth)], [], hearingTime⟩

theorem complete_deepEvent : deepEvent.Complete where
  named := by decide
  zoned := ⟨-10800000000, rfl, .inr (by decide)⟩

theorem plain_deepEntity : Plain (.object deepEvent.entity) :=
  .object (by decide) (by decide +kernel) (by simpa [deepEvent] using plain_nested _)

theorem not_portable_deepEvent (attempt : ℤ) : ¬Portable deepEvent attempt := by
  rintro ⟨⟨hdepth, -⟩, -⟩
  simp [deepEvent, Event.toValue, depth, entriesDepth, depth_nested] at hdepth
  omega

/-! ## From an event to its message and back -/

end Message

end CaseWorkflow
