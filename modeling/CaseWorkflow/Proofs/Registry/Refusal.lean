import CaseWorkflow.Proofs.Definition.Reading
import CaseWorkflow.Proofs.Registry.Reading

/-!
# Refused payloads

Any value may be offered as a definition or as an event.  It is read, or it is refused with the
problem of a part that offends; nothing else comes of it.
-/

namespace CaseWorkflow

namespace Event

/-- What keeps a value from being read as an event. -/
inductive Offends (v : Value) : Problem → Prop
  | form (h : ∀ entries, v ≠ .object entries) : Offends v (.notAnObject .event)
  | kind {entries : Entries} (hform : v = .object entries)
      (h : ∀ kind : TriggerKind, (entries.field "type").text? ≠ some (Vocabulary.wire kind)) :
      Offends v (.unknownEventKind (entries.field "type"))
  | data {entries : Entries} {name : String} (hform : v = .object entries)
      (hname : name ∈ ["entity", "context"]) (hgiven : (entries.field name).isTruthy = true)
      (h : ∀ data, entries.field name ≠ .object data) : Offends v .eventDataNotObjects
  | id {entries : Entries} (hform : v = .object entries)
      (hgiven : (entries.field "id").isTruthy = true) (htext : (entries.field "id").text? = none)
      (h : ∀ i, entries.field "id" ≠ .int i) : Offends v (.eventIdNotText (entries.field "id"))
  | timeForm {entries : Entries} (hform : v = .object entries)
      (hgiven : (entries.field "occurred_at").isTruthy = true)
      (h : (entries.field "occurred_at").text? = none) :
      Offends v (.timestampNotText (entries.field "occurred_at"))
  | time {entries : Entries} {text : String} (hform : v = .object entries)
      (hgiven : (entries.field "occurred_at").isTruthy = true)
      (htext : (entries.field "occurred_at").text? = some text)
      (h : Iso.readZoned? text = none) :
      Offends v (.timestampUnreadable (entries.field "occurred_at"))

/-- What is read of an event: its id and its time where it brings them, else a new id and the
present moment. -/
structure Stems (event : Event) (v : Value) (fresh : String) (now : Moment) : Prop where
  id : event.id = if (v.field "id").isTruthy then (v.field "id").plainText else fresh
  kind : (v.field "type").text? = some (Vocabulary.wire event.kind)
  entity : (v.field "entity").orElse (.object []) = .object event.entity
  context : (v.field "context").orElse (.object []) = .object event.context
  aware : event.occurredAt.isAware = true
  present : (v.field "occurred_at").isTruthy = false → event.occurredAt = now
  given : (v.field "occurred_at").isTruthy = true → ∃ text moment,
    (v.field "occurred_at").text? = some text ∧ Iso.readZoned? text = some moment ∧
      event.occurredAt = if moment.isAware then moment else moment.asUniversal

section Offends

variable {v : Value} {entries : Entries} {problem : Problem}

theorem readId_eq_error_iff :
    readId v = .error problem ↔
      (v.isTruthy = true ∧ v.text? = none ∧ ∀ i, v ≠ .int i) ∧ problem = .eventIdNotText v := by
  unfold readId
  by_cases hgiven : v.isTruthy = true
  · simp only [hgiven, Bool.not_true, Bool.false_eq_true, if_false, true_and]
    cases v <;> simp [Value.text?, eq_comm]
  · simp [hgiven]

theorem readId_eq_ok {id : Option String} (h : readId v = .ok id) :
    id = if v.isTruthy then some v.plainText else none := by
  unfold readId at h
  split at h
  next hgiven =>
    rw [Bool.not_eq_true'] at hgiven
    simp [hgiven, Except.ok.inj h]
  next hgiven =>
    rw [Bool.not_eq_true', Bool.not_eq_false] at hgiven
    split at h
    · simp [hgiven, ← Except.ok.inj h]
    · simp [hgiven, ← Except.ok.inj h]
    · simp [hgiven, ← Except.ok.inj h]
    · cases h

theorem readTimestamp_eq_error_iff :
    readTimestamp v = .error problem ↔
      (v.text? = none ∧ problem = .timestampNotText v) ∨
        ∃ text, v.text? = some text ∧ Iso.readZoned? text = none ∧
          problem = .timestampUnreadable v := by
  unfold readTimestamp
  cases htext : v.text? with
  | none => simp [eq_comm]
  | some text =>
      cases hread : Iso.readZoned? text with
      | none => simp [hread, eq_comm]
      | some moment => simp [hread]

theorem orElse_object_iff :
    (∀ data, v.orElse (.object []) ≠ .object data) ↔
      v.isTruthy = true ∧ ∀ data, v ≠ .object data := by
  unfold Value.orElse
  by_cases hgiven : v.isTruthy = true
  · simp [hgiven]
  · simp [hgiven]

theorem offends_of_time (hgiven : (entries.field "occurred_at").isTruthy = true)
    (h : readTimestamp (entries.field "occurred_at") = .error problem) :
    Offends (.object entries) problem := by
  rcases readTimestamp_eq_error_iff.mp h with ⟨htext, rfl⟩ | ⟨text, htext, hread, rfl⟩
  · exact .timeForm rfl hgiven htext
  · exact .time rfl hgiven htext hread

theorem offends_of_neither
    (h : ∀ entity context, (entries.field "entity").orElse (.object []) = .object entity →
      (entries.field "context").orElse (.object []) ≠ .object context) :
    Offends (.object entries) .eventDataNotObjects := by
  by_cases hentity : ∀ data, (entries.field "entity").orElse (.object []) ≠ .object data
  · obtain ⟨hgiven, hform⟩ := orElse_object_iff.mp hentity
    exact .data rfl (by simp) hgiven hform
  · push Not at hentity
    obtain ⟨entity, hentity⟩ := hentity
    obtain ⟨hgiven, hform⟩ := orElse_object_iff.mp fun context => h entity context hentity
    exact .data rfl (by simp) hgiven hform

theorem Draft.offends_of_read (h : Draft.read v = .error problem) : Offends v problem := by
  cases v with
  | object entries =>
      unfold Draft.read at h
      simp only [Value.entries?] at h
      split at h
      next hkind =>
        obtain rfl := Except.error.inj h
        have hunknown := (Vocabulary.find?_eq_none_iff TriggerKind.mem_members).mp hkind
        exact .kind rfl hunknown
      next kind hkind =>
      split at h
      next entity context hentity hcontext =>
        cases hid : readId (Entries.field entries "id") with
        | error reported =>
            rw [hid] at h
            obtain rfl := Except.error.inj h
            obtain ⟨⟨hgiven, htext, hint⟩, rfl⟩ := readId_eq_error_iff.mp hid
            exact .id rfl hgiven htext hint
        | ok id =>
            rw [hid, Json.ok_bind] at h
            by_cases hgiven : (Entries.field entries "occurred_at").isTruthy = true
            · rw [if_pos hgiven] at h
              cases htime : readTimestamp (Entries.field entries "occurred_at") with
              | error reported =>
                  rw [htime] at h
                  obtain rfl := Except.error.inj h
                  exact offends_of_time hgiven htime
              | ok moment =>
                  rw [htime] at h
                  cases h
            · rw [if_neg hgiven] at h
              cases h
      next hneither =>
        obtain rfl := Except.error.inj h
        exact offends_of_neither hneither
  | _ =>
      obtain rfl := Except.error.inj h
      exact .form (by simp)

theorem Draft.not_offends_of_read {draft : Draft} (h : Draft.read v = .ok draft) :
    ¬Offends v problem := by
  obtain ⟨entries, rfl⟩ := Draft.exists_entries h
  obtain ⟨⟨hkind, hentity, hcontext⟩, hid, htime⟩ := Draft.read_object_eq_ok.mp h
  intro hoffends
  cases hoffends with
  | form hform => exact hform entries rfl
  | kind hform hunknown =>
      cases hform
      rw [(Vocabulary.find?_eq_none_iff TriggerKind.mem_members).mpr hunknown] at hkind
      cases hkind
  | data hform hname hgiven hdata =>
      cases hform
      have hnone := orElse_object_iff.mpr ⟨hgiven, hdata⟩
      rcases List.mem_pair.mp hname with rfl | rfl
      · exact hnone _ hentity
      · exact hnone _ hcontext
  | id hform hgiven htext hint =>
      cases hform
      rw [readId_eq_error_iff.mpr ⟨⟨hgiven, htext, hint⟩, rfl⟩] at hid
      cases hid
  | timeForm hform hgiven htext =>
      cases hform
      rw [readTime?, if_pos hgiven, readTimestamp_eq_error_iff.mpr (.inl ⟨htext, rfl⟩)] at htime
      cases htime
  | time hform hgiven htext hread =>
      cases hform
      rw [readTime?, if_pos hgiven,
        readTimestamp_eq_error_iff.mpr (.inr ⟨_, htext, hread, rfl⟩)] at htime
      cases htime

end Offends

end Event

theorem Vocabulary.text?_of_find? {α : Type} [Vocabulary α] {v : Value} {member : α}
    (h : Vocabulary.find? v = some member) : v.text? = some (Vocabulary.wire member) := by
  unfold find? at h
  obtain ⟨s, htext, hfound⟩ := Option.bind_eq_some_iff.mp h
  have hsame : Vocabulary.wire member = s := eq_of_beq (by simpa using List.find?_some hfound)
  rw [htext, hsame]

namespace Desk

variable {clock : Clock} {desk : Desk} {now moment : Moment} {v : Value} {draft : Event.Draft}

/-- An event that was read stems from its data. -/
theorem stems_of_stamp (hread : Event.Draft.read v = .ok draft) (hclock : clock.moment = .ok now)
    (hstamp : stamp clock draft = .ok moment) :
    (draft.complete (draft.id.getD desk.freshId) moment).Stems v desk.freshId now := by
  have hzoned := zoned_of_stamp (Event.Draft.fit_of_read hread).2 hstamp
  obtain ⟨entries, rfl⟩ := Event.Draft.exists_entries hread
  obtain ⟨⟨hkind, hentity, hcontext⟩, hid, htime⟩ := Event.Draft.read_object_eq_ok.mp hread
  have hid := Event.readId_eq_ok hid
  have hgivenId : draft.id.getD desk.freshId =
      if (Entries.field entries "id").isTruthy then (Entries.field entries "id").plainText
      else desk.freshId := by
    rw [hid]
    split <;> rfl
  unfold stamp at hstamp
  refine ⟨hgivenId, Vocabulary.text?_of_find? hkind, hentity, hcontext, hzoned.isAware, ?_, ?_⟩
  · intro hfalsy
    have hnone : draft.occurredAt = none := by
      rw [Event.readTime?, if_neg (by simpa [Value.field, Value.entries?] using hfalsy)] at htime
      exact (Except.ok.inj htime).symm
    rw [hnone, hclock] at hstamp
    exact (Except.ok.inj hstamp).symm
  · intro hgiven
    have hgiven : (Entries.field entries "occurred_at").isTruthy = true := hgiven
    rw [Event.readTime?, if_pos hgiven] at htime
    cases hread : Event.readTimestamp (entries.field "occurred_at") with
    | error problem =>
        rw [hread] at htime
        cases htime
    | ok m =>
        rw [hread] at htime
        have hsome : draft.occurredAt = some m := (Except.ok.inj htime).symm
        rw [hsome] at hstamp
        obtain rfl := Except.ok.inj hstamp
        exact Event.readTimestamp_eq_ok hread

/-- By a clock that shows a moment an event is read of any data, or the data are refused. -/
theorem ends_readEvent (hclock : clock.moment = .ok now) (v : Value) (desk : Desk) :
    (∃ event t, (readEvent clock v).Gives desk (.ok event) t ∧ event.Stems v desk.freshId now ∧
        ∀ problem, ¬Event.Offends v problem) ∨
      ∃ problem, (readEvent clock v).Gives desk (.error (.invalid (.single problem))) desk ∧
        Event.Offends v problem := by
  cases hread : Event.Draft.read v with
  | ok draft =>
      obtain ⟨moment, hstamp⟩ := exists_stamp hclock draft
      have hgives := gives_readEvent hread clock desk
      rw [hstamp] at hgives
      exact .inl ⟨_, _, hgives, stems_of_stamp hread hclock hstamp,
        fun problem => Event.Draft.not_offends_of_read hread⟩
  | error problem =>
      refine .inr ⟨problem, ?_, Event.Draft.offends_of_read hread⟩
      unfold readEvent
      rw [hread]
      exact Attempt.gives_fail _ desk

end Desk

/-- Any value is read as a definition or refused, below its trigger and its actions with its own
id and the problem of the foremost piece that offends; a definition that was read is validated or
refused with its problems.  Likewise any value is read as an event or refused with a problem. -/
theorem payloads_read_or_refused (v : Value) :
    Definition.Taken v ∧
      (∀ d, Definition.read v = .ok d →
        (∃ w, Workflow.ofDefinition d = .ok w ∧ w.definition = d) ∨
          ∃ invalid, Workflow.ofDefinition d = .error invalid ∧ invalid.problems ≠ [] ∧
            invalid.definition = d.id.orElse .null) ∧
      ∀ (clock : Clock) (now : Moment) (desk : Desk), clock.moment = .ok now →
        (∃ event t, (Desk.readEvent clock v).Gives desk (.ok event) t ∧
            event.Stems v desk.freshId now ∧ ∀ problem, ¬Event.Offends v problem) ∨
          ∃ problem,
            (Desk.readEvent clock v).Gives desk (.error (.invalid (.single problem))) desk ∧
              Event.Offends v problem := by
  refine ⟨Definition.taken v, ?_, fun clock now desk hclock => Desk.ends_readEvent hclock v desk⟩
  intro d _
  unfold Workflow.ofDefinition
  by_cases hsound : d.Sound
  · rw [dif_pos hsound]
    exact .inl ⟨_, rfl, rfl⟩
  · rw [dif_neg hsound]
    refine .inr ⟨d.invalid, rfl, ?_, rfl⟩
    intro hnone
    exact hsound (List.isEmpty_iff.mpr hnone)

/-- A definition with three faults, the first of which is the operator of its second
condition. -/
def faultyData : Value :=
  .object [
    ("id", .text "prazo"),
    ("trigger", .object [
      ("type", .text "prazo_proximo"),
      ("conditions", .list [
        .object [("field", .text "dias"), ("operator", .text "<="), ("value", .int 7)],
        .object [("field", .text "dias"), ("operator", .list [])]])]),
    ("actions", .list [.int 5, .object [("parameters", .text "tag")]])]

theorem payloads_read_or_refused_faulty :
    (∃ entries trigger piece, faultyData = .object entries ∧
      Entries.field entries "trigger" = .object trigger ∧
      Definition.Foremost entries trigger piece (.unknownOperator (.list []))) ∧
    ∃ now problem, Desk.firstClock.moment = .ok now ∧
      (Desk.readEvent Desk.firstClock faultyData).Gives (Desk.opened .empty .null none)
        (.error (.invalid (.single problem))) (Desk.opened .empty .null none) := by
  obtain ⟨htaken, -, hevents⟩ := payloads_read_or_refused faultyData
  have hread : Definition.read faultyData
      = .error ⟨[.unknownOperator (.list [])], .text "prazo"⟩ := rfl
  obtain ⟨piece, problem, hforemost, hinvalid⟩ := (htaken.refused _ _ rfl rfl _).mp hread
  obtain ⟨hproblems, -⟩ := Invalid.mk.inj hinvalid
  obtain ⟨rfl, -⟩ := List.cons.inj hproblems
  obtain ⟨now, hclock⟩ := Desk.exists_moment_firstClock
  refine ⟨⟨_, _, piece, rfl, rfl, hforemost⟩, now, ?_⟩
  rcases hevents Desk.firstClock now (Desk.opened .empty .null none) hclock with
    ⟨event, t, -, hstems, -⟩ | ⟨problem, hgives, -⟩
  · cases hstems.kind
  · exact ⟨problem, hclock, hgives⟩

end CaseWorkflow
