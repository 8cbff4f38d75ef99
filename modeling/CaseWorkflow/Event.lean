import CaseWorkflow.Calendar.Iso
import CaseWorkflow.Problem

/-!
# Events

Something happened to an entity: the kind of event, the entity as it was at that
time, and a context of further values.  Conditions and templates see the entity
over the context.
-/

namespace CaseWorkflow

structure Event where
  id : String
  kind : TriggerKind
  entity : Entries
  context : Entries
  occurredAt : Moment

namespace Event

/-- What conditions and templates see: where both have a key, the entity's value. -/
def data (e : Event) : Entries := e.context.merge e.entity

/-- Reads the time of an event; without a distance from universal time it is taken
as universal time. -/
def readTimestamp (v : Value) : Except Problem Moment :=
  match v.text? with
  | some s =>
    match Iso.readZoned? s with
    | some moment => .ok (if moment.isAware then moment else moment.asUniversal)
    | none => .error (.timestampUnreadable v)
  | none => .error (.timestampNotText v)

/-- Reads the id that an event brings, if it brings one. -/
def readId (v : Value) : Except Problem (Option String) :=
  if !v.isTruthy then .ok none
  else
    match v with
    | .text _ | .member _ | .int _ => .ok (some v.plainText)
    | _ => .error (.eventIdNotText v)

/-- An event that has been read, where it may still need an id and a time. -/
structure Draft where
  id : Option String
  kind : TriggerKind
  entity : Entries
  context : Entries
  occurredAt : Option Moment

def Draft.read (v : Value) : Except Problem Draft := do
  match v.entries? with
  | some entries =>
    match Vocabulary.find? (entries.field "type") with
    | none => throw (.unknownEventKind (entries.field "type"))
    | some kind =>
      match (entries.field "entity").orElse (.object []),
          (entries.field "context").orElse (.object []) with
      | .object entity, .object context =>
        let id ← readId (entries.field "id")
        let occurredAt ←
          if (entries.field "occurred_at").isTruthy then
            some <$> readTimestamp (entries.field "occurred_at")
          else pure none
        return { id, kind, entity, context, occurredAt }
      | _, _ => throw .eventDataNotObjects
  | none => throw (.notAnObject .event)

def Draft.complete (draft : Draft) (id : String) (occurredAt : Moment) : Event where
  id := id
  kind := draft.kind
  entity := draft.entity
  context := draft.context
  occurredAt := occurredAt

def toValue (e : Event) : Value :=
  .object [("id", .text e.id), ("type", Vocabulary.value e.kind), ("entity", .object e.entity),
    ("context", .object e.context), ("occurred_at", .text e.occurredAt.isoText)]

end Event

end CaseWorkflow
