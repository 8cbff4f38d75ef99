import CaseWorkflow.Proofs.Calendar.Iso
import CaseWorkflow.Proofs.Json.Plain
import CaseWorkflow.Proofs.Registry.Isolation

/-!
# Events that were read

An event that was read has an id and a time with a distance from universal time.  Read once
more from its own data it is the same event, and takes neither an id nor the time of a clock.
-/

namespace CaseWorkflow

theorem Vocabulary.find?_value (kind : TriggerKind) :
    Vocabulary.find? (Vocabulary.value kind) = some kind := by
  cases kind <;> decide

theorem Value.orElse_object (entries : Entries) :
    (Value.object entries).orElse (.object []) = .object entries := by
  cases entries with
  | nil => rfl
  | cons entry rest => rfl

theorem Value.plainText_int_ne_empty (i : ℤ) : Value.plainText (.int i) ≠ "" := by
  obtain ⟨c, more, hchars, -⟩ := (Json.startsNumber_toString i).opens
  intro hempty
  change toString i = "" at hempty
  rw [hempty] at hchars
  cases hchars

theorem Member.text_ne_empty (m : Member) : m.text ≠ "" := by
  intro hempty
  have hchars := congrArg String.toList hempty
  rw [Member.text, String.toList_append, String.toList_append] at hchars
  exact absurd hchars (by simp)

theorem Moment.Zoned.isAware {m : Moment} (h : m.Zoned) : m.isAware = true := by
  obtain ⟨offset, hoffset, -⟩ := h
  rw [Moment.isAware, hoffset]
  rfl

namespace Event

/-- The event has an id and a time with a distance from universal time. -/
structure Complete (event : Event) : Prop where
  named : event.id ≠ ""
  zoned : event.occurredAt.Zoned

theorem readId_text {id : String} (h : id ≠ "") : readId (.text id) = .ok (some id) := by
  have htruthy : (Value.text id).isTruthy = true := by simpa [Value.isTruthy] using h
  rw [readId, htruthy]
  rfl

theorem ne_empty_of_readId {v : Value} {id : String} (h : readId v = .ok (some id)) : id ≠ "" := by
  unfold readId at h
  split at h
  · cases h
  next htruthy =>
    simp only [Bool.not_eq_true', Bool.not_eq_false] at htruthy
    split at h
    · obtain rfl := Option.some.inj (Except.ok.inj h)
      simpa [Value.isTruthy, Value.plainText] using htruthy
    · obtain rfl := Option.some.inj (Except.ok.inj h)
      exact Member.text_ne_empty _
    · obtain rfl := Option.some.inj (Except.ok.inj h)
      exact Value.plainText_int_ne_empty _
    · cases h

theorem readTimestamp_eq_ok {v : Value} {m : Moment} (h : readTimestamp v = .ok m) :
    ∃ text moment, v.text? = some text ∧ Iso.readZoned? text = some moment ∧
      m = if moment.isAware then moment else moment.asUniversal := by
  unfold readTimestamp at h
  split at h
  next text htext =>
    split at h
    next moment hread => exact ⟨text, moment, htext, hread, (Except.ok.inj h).symm⟩
    next => cases h
  next => cases h

theorem zoned_of_readTimestamp {v : Value} {m : Moment} (h : readTimestamp v = .ok m) :
    m.Zoned := by
  obtain ⟨text, moment, -, hmoment, rfl⟩ := readTimestamp_eq_ok h
  rcases Iso.zoned_of_readMoment? hmoment with hnone | ⟨offset, hoffset, hdistance⟩
  · simp only [Moment.isAware, hnone]
    exact ⟨0, rfl, .inl rfl⟩
  · simp only [Moment.isAware, hoffset]
    exact ⟨offset, hoffset, hdistance⟩

/-- Reads the time that an event brings, if it brings one. -/
def readTime? (v : Value) : Except Problem (Option Moment) :=
  if v.isTruthy then some <$> readTimestamp v else pure none

/-- The time that an event is read to have at a moment. -/
def timeAt (m : Moment) : Moment :=
  if m.settled.isAware then m.settled else m.settled.asUniversal

theorem timeAt_of_zoned {m : Moment} (h : m.Zoned) : timeAt m = m := by
  rw [timeAt, Moment.settled_eq (.inr h), if_pos h.isAware]

theorem readTime?_isoText (m : Moment) : readTime? (.text m.isoText) = .ok (some (timeAt m)) := by
  have hread : readTimestamp (.text m.isoText) = .ok (timeAt m) := by
    simp only [readTimestamp, Value.text?, Iso.readZoned?_isoText m, timeAt]
  have htruthy : (Value.text m.isoText).isTruthy = true := by
    by_contra hempty
    simp only [Value.isTruthy, Bool.not_eq_true', Bool.not_eq_false, String.isEmpty_iff] at hempty
    rw [hempty] at hread
    cases hread
  rw [readTime?, if_pos htruthy, hread]
  rfl

/-- What is read of an object, part by part. -/
theorem Draft.read_object_eq_ok {entries : Entries} {draft : Draft} :
    Draft.read (.object entries) = .ok draft ↔
      (Vocabulary.find? (entries.field "type") = some draft.kind ∧
        (entries.field "entity").orElse (.object []) = .object draft.entity ∧
        (entries.field "context").orElse (.object []) = .object draft.context) ∧
      readId (entries.field "id") = .ok draft.id ∧
      readTime? (entries.field "occurred_at") = .ok draft.occurredAt := by
  unfold readTime?
  constructor
  · intro h
    unfold Draft.read at h
    dsimp only [Value.entries?] at h
    split at h
    · cases h
    next kind hkind =>
    split at h
    swap
    · cases h
    next entity context hentity hcontext =>
    cases hid : readId (entries.field "id") with
    | error problem =>
        rw [hid] at h
        cases h
    | ok id =>
        rw [hid, Json.ok_bind] at h
        split at h
        next htruthy =>
          cases htime : readTimestamp (entries.field "occurred_at") with
          | error problem =>
              rw [htime] at h
              cases h
          | ok moment =>
              rw [htime] at h
              obtain rfl := Except.ok.inj h
              rw [if_pos htruthy]
              exact ⟨⟨hkind, hentity, hcontext⟩, rfl, rfl⟩
        next hfalsy =>
          obtain rfl := Except.ok.inj h
          rw [if_neg hfalsy]
          exact ⟨⟨hkind, hentity, hcontext⟩, rfl, rfl⟩
  · rintro ⟨⟨hkind, hentity, hcontext⟩, hid, htime⟩
    unfold Draft.read
    simp only [Value.entries?, hkind, hentity, hcontext, hid, Json.ok_bind]
    split at htime
    next htruthy =>
      rw [if_pos htruthy, htime]
      rfl
    next hfalsy =>
      obtain hnone := Except.ok.inj htime
      rw [if_neg hfalsy, hnone]
      rfl

theorem Draft.exists_entries {v : Value} {draft : Draft} (h : Draft.read v = .ok draft) :
    ∃ entries : Entries, v = .object entries := by
  cases v with
  | object entries => exact ⟨entries, rfl⟩
  | _ => cases h

/-- What data brings of an id and a time is fit for an event. -/
theorem Draft.fit_of_read {v : Value} {draft : Draft} (h : Draft.read v = .ok draft) :
    (∀ id ∈ draft.id, id ≠ "") ∧ ∀ m ∈ draft.occurredAt, m.Zoned := by
  obtain ⟨entries, rfl⟩ := Draft.exists_entries h
  obtain ⟨-, hid, htime⟩ := Draft.read_object_eq_ok.mp h
  constructor
  · intro id hbrought
    rw [Option.mem_def.mp hbrought] at hid
    exact ne_empty_of_readId hid
  · intro m hbrought
    unfold readTime? at htime
    split at htime
    · cases hread : readTimestamp (entries.field "occurred_at") with
      | error problem =>
          rw [hread] at htime
          cases htime
      | ok moment =>
          rw [hread] at htime
          rw [← Except.ok.inj htime] at hbrought
          obtain rfl := Option.some.inj hbrought
          exact zoned_of_readTimestamp hread
    · rw [← Except.ok.inj htime] at hbrought
      cases hbrought

theorem Draft.read_toValue {event : Event} (h : event.Complete) :
    Draft.read event.toValue
      = .ok ⟨some event.id, event.kind, event.entity, event.context, some event.occurredAt⟩ := by
  have hentity := Value.orElse_object event.entity
  have hcontext := Value.orElse_object event.context
  have htime : readTime? (.text event.occurredAt.isoText) = .ok (some event.occurredAt) := by
    rw [readTime?_isoText, timeAt_of_zoned h.zoned]
  exact Draft.read_object_eq_ok.mpr
    ⟨⟨Vocabulary.find?_value event.kind, hentity, hcontext⟩, readId_text h.named, htime⟩

/-- The data of an event is plain, if its entity, its context and its id are. -/
theorem plain_toValue {event : Event} (hid : Json.settledText event.id = event.id)
    (hentity : Json.Plain (.object event.entity))
    (hcontext : Json.Plain (.object event.context)) : Json.Plain event.toValue := by
  have hkeys : ∀ name ∈ ["id", "type", "entity", "context", "occurred_at"],
      Json.settledText name = name := by
    intro name hname
    apply Json.settledText_ascii
    revert name
    decide
  have hkind : Json.settledText (Vocabulary.wire event.kind) = Vocabulary.wire event.kind := by
    apply Json.settledText_ascii
    cases event.kind <;> decide
  have htime : Json.settledText event.occurredAt.isoText = event.occurredAt.isoText :=
    Json.settledText_ascii (Iso.ascii_isoText event.occurredAt)
  apply Json.Plain.object
  · simp [Table.keys]
  · exact hkeys
  · intro entry hentry
    simp only [List.mem_cons, List.not_mem_nil, or_false] at hentry
    rcases hentry with rfl | rfl | rfl | rfl | rfl
    · exact .text hid
    · exact .text hkind
    · exact hentity
    · exact hcontext
    · exact .text htime

end Event

namespace Desk

variable {clock : Clock} {desk : Desk} {event : Event}

/-- An event is read from its own data without a clock and without a new id. -/
theorem gives_readEvent_toValue (h : event.Complete) (clock : Clock) (desk : Desk) :
    (readEvent clock event.toValue).Gives desk (.ok event) desk := by
  exact gives_readEvent (Event.Draft.read_toValue h) clock desk

theorem toList_freshId (desk : Desk) :
    desk.freshId.toList = "id-".toList ++ Nat.toDigits 10 (desk.issued + 1) := by
  change ("id-" ++ (desk.issued + 1).repr).toList = _
  rw [String.toList_append, Nat.toList_repr]

theorem named_getD {id : Option String} (h : ∀ given ∈ id, given ≠ "") (desk : Desk) :
    id.getD desk.freshId ≠ "" := by
  cases id with
  | some given => exact h given rfl
  | none =>
      intro hempty
      have hchars := congrArg String.toList hempty
      rw [Option.getD_none, toList_freshId] at hchars
      cases hchars

theorem zoned_of_stamp {draft : Event.Draft} {m : Moment} (h : ∀ m ∈ draft.occurredAt, m.Zoned)
    (hstamp : stamp clock draft = .ok m) : m.Zoned := by
  unfold stamp at hstamp
  cases htime : draft.occurredAt with
  | some moment =>
      rw [htime] at hstamp
      obtain rfl := Except.ok.inj hstamp
      exact h _ htime
  | none =>
      rw [htime] at hstamp
      cases hclock : clock.moment with
      | error flaw =>
          rw [hclock] at hstamp
          cases hstamp
      | ok now =>
          rw [hclock] at hstamp
          obtain rfl := Except.ok.inj hstamp
          exact Clock.zoned_moment hclock

/-- An event that was read is a draft with an id and a time. -/
theorem exists_draft_of_readEvent {v : Value} {t : Desk}
    (h : (readEvent clock v).Gives desk (.ok event) t) :
    ∃ draft moment, Event.Draft.read v = .ok draft ∧ stamp clock draft = .ok moment ∧
      event = draft.complete (draft.id.getD desk.freshId) moment := by
  cases hread : Event.Draft.read v with
  | error problem =>
      unfold readEvent at h
      rw [hread] at h
      cases h.1
  | ok draft =>
      have hevent := (gives_readEvent hread clock desk).1.symm.trans h.1
      cases hstamp : stamp clock draft with
      | error fault =>
          rw [hstamp] at hevent
          cases hevent
      | ok moment =>
          rw [hstamp] at hevent
          exact ⟨draft, moment, rfl, hstamp, (Except.ok.inj hevent).symm⟩

theorem complete_of_readEvent {v : Value} {t : Desk}
    (h : (readEvent clock v).Gives desk (.ok event) t) : event.Complete := by
  obtain ⟨draft, moment, hread, hstamp, rfl⟩ := exists_draft_of_readEvent h
  obtain ⟨hid, htime⟩ := Event.Draft.fit_of_read hread
  exact ⟨named_getD hid desk, zoned_of_stamp htime hstamp⟩

end Desk

end CaseWorkflow
