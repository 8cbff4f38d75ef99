import CaseWorkflow.Proofs.Condition.Ordering
import CaseWorkflow.Proofs.Queue.RoundTrip

/-!
# Dates and their texts in comparisons

A comparison sees of a value the number that it is or the date that it gives.  A date and its
texts give the same date, so a comparison cannot tell them apart, and an event that a queue
carried is met by the same ordering conditions as before.
-/

namespace CaseWorkflow

/-! ## Values that compare alike -/

namespace Value

variable {x y : Value}

/-- No comparison tells the two values apart. -/
structure OrderedAs (x y : Value) : Prop where
  number : x.properNumber? = y.properNumber?
  date : Temporal.of? x = Temporal.of? y

theorem OrderedAs.refl (x : Value) : x.OrderedAs x := ⟨rfl, rfl⟩

theorem OrderedAs.compared_left (h : x.OrderedAs y) (z : Value) :
    x.compared z = y.compared z := by
  unfold compared comparedAsDates
  rw [h.number, h.date]

theorem OrderedAs.compared_right (h : x.OrderedAs y) (z : Value) :
    z.compared x = z.compared y := by
  unfold compared comparedAsDates
  rw [h.number, h.date]

/-- A day, or a moment at a distance from universal time that texts can give, or at none. -/
def IsDate : Value → Prop
  | .date _ => True
  | .moment m => m.offset = none ∨ m.Zoned
  | _ => False

/-- The text of a date in ISO 8601. -/
def isoText : Value → String
  | .date d => d.text
  | .moment m => m.isoText
  | v => v.plainText

end Value

theorem Temporal.of?_text (s : String) : of? (.text s) = read? s := rfl

theorem Temporal.of?_dateText (d : Date) : of? (.text d.text) = of? (.date d) := by
  rw [of?_text, read?, Iso.readDate?_dateText]
  rfl

theorem Temporal.of?_textWith {separator : String} {mark : Char} {m : Moment}
    (hmark : separator.toList = [mark]) (hchar : Iso.isIsoChar mark = true)
    (h : m.offset = none ∨ m.Zoned) : of? (.text (m.textWith separator)) = of? (.moment m) := by
  rw [of?_text, read?, Iso.readDate?_textWith hmark hchar, Iso.readZoned?_textWith hmark hchar,
    Moment.settled_eq h]
  rfl

/-- A date compares as either of its texts. -/
theorem Value.IsDate.orderedAs {x : Value} (h : x.IsDate) :
    ∀ text ∈ [x.plainText, x.isoText], (Value.text text).OrderedAs x := by
  intro text htext
  simp only [List.mem_cons, List.not_mem_nil, or_false] at htext
  cases x with
  | date d =>
      obtain rfl : text = d.text := htext.elim id id
      exact ⟨rfl, Temporal.of?_dateText d⟩
  | moment m =>
      rcases htext with rfl | rfl
      · exact ⟨rfl, Temporal.of?_textWith rfl (by decide) h⟩
      · exact ⟨rfl, Temporal.of?_textWith rfl (by decide) h⟩
  | _ => exact h.elim

namespace Condition

variable {c : Condition} {operator : Operator} {data data' : Entries} {x y : Value}

/-- On data whose values compare alike, an ordering condition comes to the same. -/
theorem outcome_congr (hknown : c.operator = .known operator)
    (hoperator : operator.isOrdering = true)
    (h : Option.Rel Value.OrderedAs (c.actual? data) (c.actual? data')) :
    c.outcome data = c.outcome data' := by
  generalize hbefore : c.actual? data = before, hafter : c.actual? data' = after at h
  cases h with
  | none =>
      have hsame : c.evaluate data = c.evaluate data' := by
        unfold evaluate
        rw [hbefore, hafter]
      exact congrArg (Except.mapError Undecided.obstacle) hsame
  | some h =>
      rw [outcome_ordering hknown hoperator hbefore, outcome_ordering hknown hoperator hafter,
        h.compared_left]

/-- With values that compare alike, an ordering condition comes to the same. -/
theorem outcome_value_congr (hknown : c.operator = .known operator)
    (hoperator : operator.isOrdering = true) (h : x.OrderedAs y) (data : Entries) :
    { c with value := x }.outcome data = { c with value := y }.outcome data := by
  cases hactual : c.actual? data with
  | none =>
      have hx : { c with value := x }.actual? data = none := hactual
      have hy : { c with value := y }.actual? data = none := hactual
      unfold outcome evaluate
      rw [hx, hy]
  | some actual =>
      rw [outcome_ordering (c := { c with value := x }) hknown hoperator hactual,
        outcome_ordering (c := { c with value := y }) hknown hoperator hactual,
        h.compared_right]

end Condition

/-! ## Values read of their texts -/

open Json

/-- The value is read of its text as one that compares alike: no halves of one pair stand next
to each other in a text, and a moment is one that its text gives. -/
def Value.Comparable : Value → Prop
  | .text s => settledText s = s
  | .member m => settledText m.wire = m.wire
  | .moment m => m.offset = none ∨ m.Zoned
  | _ => True

theorem Value.Comparable.orderedAs {v w : Value} {room : ℕ} (h : v.Comparable)
    (hread : Json.reread? v room = some w) : v.OrderedAs w := by
  cases v with
  | null | bool _ | float _ =>
      obtain rfl := Option.some.inj hread
      exact .refl _
  | int i =>
      rw [Json.reread?] at hread
      split at hread
      · obtain rfl := Option.some.inj hread
        exact .refl _
      · cases hread
  | text s =>
      obtain rfl := Option.some.inj hread
      rw [show settledText s = s from h]
      exact .refl _
  | member m =>
      obtain rfl := Option.some.inj hread
      rw [show settledText m.wire = m.wire from h]
      exact ⟨rfl, rfl⟩
  | date d =>
      obtain rfl := Option.some.inj hread
      rw [settledText_ascii (Iso.ascii_dateText d)]
      exact ⟨rfl, (Temporal.of?_dateText d).symm⟩
  | moment m =>
      obtain rfl := Option.some.inj hread
      rw [settledText_ascii (Iso.ascii_text m)]
      exact ⟨rfl, (Temporal.of?_textWith rfl (by decide) h).symm⟩
  | list items =>
      rw [Json.reread?] at hread
      split at hread
      · cases hread
      · obtain ⟨settled, -, rfl⟩ := Option.map_eq_some_iff.mp hread
        exact ⟨rfl, rfl⟩
  | object entries =>
      rw [Json.reread?] at hread
      split at hread
      · cases hread
      · obtain ⟨settled, -, rfl⟩ := Option.map_eq_some_iff.mp hread
        exact ⟨rfl, rfl⟩

/-! ## Events that a queue carries -/

/-- The entries have one key each, and are read of their texts as entries that compare alike. -/
structure Entries.Comparable (entries : Entries) : Prop where
  nodup : entries.keys.Nodup
  key : ∀ key ∈ entries.keys, settledText key = key
  value : ∀ entry ∈ entries, entry.2.Comparable

section Lookup

variable {entries settled done : Entries} {room : ℕ}

/-- Where the entries have one key each, each key has the value that was read of its text. -/
theorem lookup_rereadEntries? (hnodup : entries.keys.Nodup)
    (hkeys : ∀ key ∈ entries.keys, settledText key = key)
    (h : rereadEntries? entries room done = some settled) (key : String) :
    (∃ v w, (key, v) ∈ entries ∧ entries.lookup key = some v ∧ Json.reread? v room = some w ∧
        settled.lookup key = some w) ∨
      (entries.lookup key = none ∧ settled.lookup key = done.lookup key) := by
  induction entries generalizing done with
  | nil =>
      obtain rfl := Option.some.inj h
      exact .inr ⟨rfl, rfl⟩
  | cons entry rest ih =>
      obtain ⟨other, value⟩ := entry
      obtain ⟨hother, hrest⟩ := List.nodup_cons.mp hnodup
      rw [rereadEntries?, hkeys other List.mem_cons_self, Option.bind_eq_some_iff] at h
      obtain ⟨first, hfirst, h⟩ := h
      have hread := ih hrest (fun key hkey => hkeys key (List.mem_cons_of_mem _ hkey)) h
      rw [Table.lookup_cons]
      by_cases hkey : key = other
      · subst hkey
        rw [if_pos rfl]
        rcases hread with ⟨v, w, hmem, -⟩ | ⟨-, hlookup⟩
        · exact absurd (List.mem_map_of_mem hmem) hother
        · rw [Table.lookup_insert, if_pos rfl] at hlookup
          exact .inl ⟨value, first, List.mem_cons_self, rfl, hfirst, hlookup⟩
      · rw [if_neg hkey]
        rcases hread with ⟨v, w, hmem, hread⟩ | ⟨hnone, hlookup⟩
        · exact .inl ⟨v, w, List.mem_cons_of_mem _ hmem, hread⟩
        · rw [Table.lookup_insert, if_neg hkey] at hlookup
          exact .inr ⟨hnone, hlookup⟩

theorem Entries.Comparable.rel_lookup (h : entries.Comparable)
    (hread : rereadEntries? entries room [] = some settled) (key : String) :
    Option.Rel Value.OrderedAs (entries.lookup key) (settled.lookup key) := by
  rcases lookup_rereadEntries? h.nodup h.key hread key with
    ⟨v, w, hmem, hbefore, hvalue, hafter⟩ | ⟨hbefore, hafter⟩
  · rw [hbefore, hafter]
    exact .some ((h.value _ hmem).orderedAs hvalue)
  · rw [hbefore, hafter]
    exact .none

end Lookup

/-- Both halves of an event are read of their texts as entries that compare alike. -/
structure Event.Comparable (event : Event) : Prop where
  entity : event.entity.Comparable
  context : event.context.Comparable

/-- How many lists and objects may stand in each other in a value of an event. -/
def Event.valueDepth : ℕ := Message.partDepth - 2

theorem Event.Comparable.rel_data {event read : Event} (h : event.Comparable)
    (hentity : rereadEntries? event.entity valueDepth [] = some read.entity)
    (hcontext : rereadEntries? event.context valueDepth [] = some read.context) (key : String) :
    Option.Rel Value.OrderedAs (event.data.lookup key) (read.data.lookup key) := by
  have hnodup : read.entity.keys.Nodup :=
    (settled_entries (fun _ _ _ hw => settled_of_reread? hw) (.nil _) hentity).nodup
  have hover := h.entity.rel_lookup hentity key
  rw [Event.data, Event.data, Table.lookup_merge h.entity.nodup, Table.lookup_merge hnodup]
  generalize event.entity.lookup key = before, read.entity.lookup key = after at hover
  cases hover with
  | none => exact h.context.rel_lookup hcontext key
  | some hvalue => exact .some hvalue

/-- What is read of the text of an event is a draft of it, with a time. -/
theorem Event.exists_draft_of_reread? {event : Event} {v : Value}
    (h : Json.reread? event.toValue Message.partDepth = some v) :
    ∃ draft : Draft, Draft.read v = .ok draft ∧ draft.occurredAt = some (timeAt event.occurredAt) ∧
      rereadEntries? event.entity valueDepth [] = some draft.entity ∧
      rereadEntries? event.context valueDepth [] = some draft.context := by
  have hkeys : ∀ name ∈ ["id", "type", "entity", "context", "occurred_at"],
      settledText name = name := by
    intro name hname
    apply settledText_ascii
    revert name
    decide
  have hkind : settledText (Vocabulary.wire event.kind) = Vocabulary.wire event.kind := by
    apply settledText_ascii
    cases event.kind <;> decide
  have htime := settledText_ascii (Iso.ascii_isoText event.occurredAt)
  rw [toValue, Json.reread?, if_neg (by decide), Option.map_eq_some_iff] at h
  obtain ⟨settled, hsettled, rfl⟩ := h
  simp only [rereadEntries?, Vocabulary.value, Json.reread?, hkeys "id" (by decide),
    hkeys "type" (by decide), hkeys "entity" (by decide), hkeys "context" (by decide),
    hkeys "occurred_at" (by decide), hkind, htime, Option.bind_some] at hsettled
  obtain ⟨entity, hentity, hsettled⟩ := Option.bind_eq_some_iff.mp hsettled
  rw [if_neg (by decide), Option.map_eq_some_iff] at hentity
  obtain ⟨entity, hentity, rfl⟩ := hentity
  obtain ⟨context, hcontext, hsettled⟩ := Option.bind_eq_some_iff.mp hsettled
  rw [if_neg (by decide), Option.map_eq_some_iff] at hcontext
  obtain ⟨context, hcontext, rfl⟩ := hcontext
  obtain rfl := Option.some.inj hsettled
  obtain ⟨id, hid⟩ : ∃ id, readId (.text (settledText event.id)) = .ok id := by
    unfold readId
    split <;> exact ⟨_, rfl⟩
  refine ⟨⟨id, event.kind, entity, context, some (timeAt event.occurredAt)⟩, ?_, rfl, hentity,
    hcontext⟩
  exact Draft.read_object_eq_ok.mpr ⟨⟨Vocabulary.find?_value event.kind, Value.orElse_object entity,
    Value.orElse_object context⟩, hid, readTime?_isoText event.occurredAt⟩

/-- A hearing with a day and moments of both kinds among its values. -/
def datedHearing : Event where
  id := "7"
  kind := .hearingApproaching
  entity := [("prazo", .date ⟨2024, 5, 20, by decide⟩), ("inicio", .moment Message.hearingTime)]
  context := [("fim", .moment (.midnight ⟨2024, 5, 11, by decide⟩)), ("sala", .int 3)]
  occurredAt := Message.hearingTime

theorem comparable_datedHearing : datedHearing.Comparable where
  entity :=
    { nodup := by decide
      key := by decide +kernel
      value := by
        simp only [datedHearing, List.forall_mem_cons, List.not_mem_nil, false_imp_iff,
          implies_true, and_true]
        exact ⟨trivial, .inr ⟨-10800000000, rfl, .inr (by decide)⟩⟩ }
  context :=
    { nodup := by decide
      key := by decide +kernel
      value := by
        simp only [datedHearing, List.forall_mem_cons, List.not_mem_nil, false_imp_iff,
          implies_true, and_true]
        exact ⟨.inl rfl, trivial⟩ }

namespace Condition

/-- A date can give way to either of its texts, in the data as in the condition, and an ordering
condition comes to the same.  So it does once a queue has carried the event. -/
theorem dates_compare_as_texts :
    (∀ (c : Condition) (operator : Operator) (x : Value), c.operator = .known operator →
      operator.isOrdering = true → x.IsDate → ∀ text ∈ [x.plainText, x.isoText],
        (∀ data data', c.actual? data = some x → c.actual? data' = some (.text text) →
          c.outcome data' = c.outcome data) ∧
        ∀ data, { c with value := .text text }.outcome data
          = { c with value := x }.outcome data) ∧
    ∀ (event : Event) (id : String) (now : Double) (attempt : ℤ) (reason : Option String)
      (text : String), event.Comparable →
      (Message.carrying id event now attempt reason).write = .ok text →
        ∃ message, Message.decode text = .ok message ∧ ∀ clock desk, ∃ carried t,
          (Desk.readEvent clock message.event).Gives desk (.ok carried) t ∧
            ∀ (c : Condition) (operator : Operator), c.operator = .known operator →
              operator.isOrdering = true → c.outcome carried.data = c.outcome event.data := by
  constructor
  · intro c operator x hknown hoperator hx text htext
    have halike := hx.orderedAs text htext
    refine ⟨fun data data' hdata hdata' => ?_, outcome_value_congr hknown hoperator halike⟩
    apply outcome_congr hknown hoperator
    rw [hdata, hdata']
    exact .some halike
  · intro event id now attempt reason text hevent hwrite
    obtain rfl := Message.encode_of_write hwrite
    obtain ⟨message, hdecode⟩ := Message.exists_read_of_write hwrite
    refine ⟨message, hdecode, fun clock desk => ?_⟩
    obtain ⟨⟨-, hread, -⟩, -⟩ :=
      Message.reread?_eq_some.mp (Message.decode_encode_eq_ok.mp hdecode)
    obtain ⟨draft, hdraft, htime, hentity, hcontext⟩ := Event.exists_draft_of_reread? hread
    have hgives := Desk.gives_readEvent hdraft clock desk
    rw [Desk.stamp, htime] at hgives
    refine ⟨_, _, hgives, fun c operator hknown hoperator => ?_⟩
    apply (outcome_congr hknown hoperator _).symm
    unfold actual?
    cases c.field.text? with
    | none => exact .none
    | some key => exact hevent.rel_data hentity hcontext key

theorem dates_compare_as_texts_hearing :
    (Value.IsDate (.moment Message.hearingTime) ∧
      (asking "inicio" .lt (.text "2024-05-11")).outcome
          [("inicio", .text "2024-05-10 09:30:00.250000-03:00")]
        = (asking "inicio" .lt (.text "2024-05-11")).outcome
          [("inicio", .moment Message.hearingTime)]) ∧
    datedHearing.Comparable ∧ ∃ text message,
      (Message.carrying "msg-1" datedHearing (Double.ofNat 60) 1 none).write = .ok text ∧
        Message.decode text = .ok message ∧ ∀ clock desk, ∃ carried t,
          (Desk.readEvent clock message.event).Gives desk (.ok carried) t ∧
            (asking "prazo" .ge (.date ⟨2024, 5, 10, by decide⟩)).outcome carried.data
              = .ok true := by
  obtain ⟨hgive, hcarry⟩ := dates_compare_as_texts
  constructor
  · have hdate : Value.IsDate (.moment Message.hearingTime) :=
      .inr ⟨-10800000000, rfl, .inr (by decide)⟩
    refine ⟨hdate, ?_⟩
    exact (hgive (asking "inicio" .lt (.text "2024-05-11")) .lt _ rfl rfl hdate
      "2024-05-10 09:30:00.250000-03:00" (by decide +kernel)).1 _ _ rfl rfl
  · have hwrite : (Message.carrying "msg-1" datedHearing (Double.ofNat 60) 1 none).write
        = .ok (Message.carrying "msg-1" datedHearing (Double.ofNat 60) 1 none).encode :=
      Message.write_carrying_eq_ok.mpr
        ⟨⟨⟨by decide +kernel, by decide +kernel⟩, by decide +kernel⟩, rfl⟩
    obtain ⟨message, hdecode, hread⟩ := hcarry _ _ _ _ _ _ comparable_datedHearing hwrite
    refine ⟨comparable_datedHearing, _, message, hwrite, hdecode, fun clock desk => ?_⟩
    obtain ⟨carried, t, hgives, hsame⟩ := hread clock desk
    exact ⟨carried, t, hgives, (hsame _ .ge rfl rfl).trans rfl⟩

end Condition

end CaseWorkflow
