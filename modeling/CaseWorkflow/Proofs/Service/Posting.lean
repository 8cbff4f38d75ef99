import CaseWorkflow.Proofs.Json.Reading
import CaseWorkflow.Proofs.Queue.RoundTrip
import CaseWorkflow.Proofs.Worker.Processing
import CaseWorkflow.Service.Basic

/-!
# Events that are posted

A request posts an event as the JSON text of its body.  The event that is read of it holds
plain data, and the route to which the request is led handles it or puts it on the queue.
-/

namespace CaseWorkflow

open Json

/-! ## The data of an event -/

section Data

variable {entries : Entries} {data : Value} {draft : Event.Draft}

theorem Json.Wrought.field (h : Wrought (.object entries)) (key : String) :
    Wrought (entries.field key) := by
  unfold Entries.field
  cases hvalue : entries.lookup key with
  | none => exact ⟨.null, rfl⟩
  | some v =>
      have hmem : (key, v) ∈ entries := by
        obtain ⟨before, after, rfl, -⟩ := List.lookup_eq_some_iff.mp hvalue
        simp
      obtain ⟨hplain, hlegible⟩ := h
      rw [isLegible, haveLegible_iff] at hlegible
      cases hplain with
      | object _ _ hvalues => exact ⟨hvalues _ hmem, hlegible _ hmem⟩

theorem Json.Wrought.orElse {v w other : Value} (h : Wrought v) (hother : Wrought other)
    (heq : v.orElse other = w) : Wrought w := by
  rw [← heq, Value.orElse]
  split
  · exact h
  · exact hother

theorem Json.settledText_plainText_int (i : ℤ) :
    settledText (Value.int i).plainText = (Value.int i).plainText := by
  exact settledText_ascii (ascii_write (.int i))

namespace Event

theorem Draft.isTruthy_of_read (h : Draft.read data = .ok draft) : data.isTruthy = true := by
  obtain ⟨entries, rfl⟩ := Draft.exists_entries h
  obtain ⟨⟨hkind, -, -⟩, -, -⟩ := Draft.read_object_eq_ok.mp h
  cases entries with
  | nil => cases hkind
  | cons entry rest => rfl

theorem settled_of_readId {v : Value} (h : Plain v) {id : String} (hid : readId v = .ok (some id)) :
    settledText id = id := by
  unfold readId at hid
  split at hid
  · cases hid
  · cases h with
    | text hsettled =>
        obtain rfl := Option.some.inj (Except.ok.inj hid)
        exact hsettled
    | int i =>
        obtain rfl := Option.some.inj (Except.ok.inj hid)
        exact settledText_plainText_int i
    | null | bool _ | float _ | list _ | object _ _ _ => cases hid

theorem Draft.wrought_of_read (hdata : Wrought data) (h : Draft.read data = .ok draft) :
    Wrought (.object draft.entity) ∧ Wrought (.object draft.context) ∧
      ∀ id ∈ draft.id, settledText id = id := by
  obtain ⟨entries, rfl⟩ := Draft.exists_entries h
  obtain ⟨⟨-, hentity, hcontext⟩, hid, -⟩ := Draft.read_object_eq_ok.mp h
  refine ⟨(hdata.field "entity").orElse wrought_empty hentity,
    (hdata.field "context").orElse wrought_empty hcontext, fun id hbrought => ?_⟩
  rw [Option.mem_def.mp hbrought] at hid
  exact settled_of_readId (hdata.field "id").plain hid

end Event

theorem Desk.settledText_freshId (desk : Desk) : settledText desk.freshId = desk.freshId := by
  apply settledText_ascii
  rw [Desk.toList_freshId]
  exact Ascii.append_toDigits (by decide) _

/-- The event that is read of plain data is plain. -/
theorem Desk.wrought_of_readEvent {clock : Clock} {desk t : Desk} {event : Event}
    (hdata : Wrought data) (h : (Desk.readEvent clock data).Gives desk (.ok event) t) :
    Wrought event.toValue := by
  obtain ⟨draft, moment, hread, -, rfl⟩ := Desk.exists_draft_of_readEvent h
  obtain ⟨hentity, hcontext, hbrought⟩ := Event.Draft.wrought_of_read hdata hread
  have hid : settledText (draft.id.getD desk.freshId) = draft.id.getD desk.freshId := by
    cases hgiven : draft.id with
    | none => exact desk.settledText_freshId
    | some id => exact hbrought id hgiven
  constructor
  · exact Event.plain_toValue hid hentity.plain hcontext.plain
  · have hentity := hentity.legible
    have hcontext := hcontext.legible
    simp only [Event.toValue, Event.Draft.complete, Vocabulary.value, isLegible, haveLegible,
      Bool.true_and, Bool.and_true, Bool.and_eq_true] at hentity hcontext ⊢
    exact ⟨hentity, hcontext⟩

/-- The first message of a plain event that does not nest too deep can be written and is read as
it was. -/
theorem Message.create_written {event : Event} (h : Wrought event.toValue)
    (hdepth : depth event.toValue < writtenDepth) (number : ℕ) (now : Double) :
    ∃ text, (create s!"msg-{number}" event now).write = .ok text ∧
      decode text = .ok (create s!"msg-{number}" event now) := by
  have hportable : Portable event 1 :=
    ⟨⟨hdepth, h.legible⟩, (legible_iff_lt 1).mpr one_lt_attemptLimit⟩
  have hwrite : (carrying s!"msg-{number}" event now 1 none).write
      = .ok (carrying s!"msg-{number}" event now 1 none).encode :=
    write_carrying_eq_ok.mpr ⟨hportable, rfl⟩
  have hplain : (carrying s!"msg-{number}" event now 1 none).AllPlain :=
    plain_carrying (settledText_idText number) h.plain (by simp)
  exact ⟨_, hwrite, hplain.decode hwrite⟩

end Data

/-! ## Requests -/

/-- The request is a post that is led to a route, whatever its body is. -/
structure Request.Sends (request : Request) (route : Route) : Prop where
  post : request.method = "POST"
  led : ∃ address, request.address = .ok address ∧ Destination.of address.path "POST" = .route route

theorem Request.Sends.verb {request : Request} {route : Route} (h : request.Sends route) :
    request.verb = "POST" := by
  rw [Request.verb, h.post]
  decide +kernel

/-- The request posts data as the JSON text of its body, and is led to a route. -/
structure Request.Posts (request : Request) (route : Route) (data : Value) : Prop where
  post : request.method = "POST"
  led : ∃ address, request.address = .ok address ∧ Destination.of address.path "POST" = .route route
  json : Request.isJsonType request.contentType = true
  text : ∃ text, request.bodyText? = some text ∧ Halfless text.toList ∧ Json.read text = .ok data

namespace Request.Posts

variable {request : Request} {route : Route} {data : Value}

theorem data_eq (h : request.Posts route data) : request.data = .ok data := by
  obtain ⟨text, htext, -, hread⟩ := h.text
  rw [Request.data, if_pos h.json, htext, Option.map_some, hread]

theorem sends (h : request.Posts route data) : request.Sends route := ⟨h.post, h.led⟩

theorem wrought (h : request.Posts route data) : Wrought data := by
  obtain ⟨text, -, hwhole, hread⟩ := h.text
  exact wrought_of_read hwhole hread

end Request.Posts

/-! ### Requests with a written body -/

/-- Bytes that begin with two other than zero are units of one byte. -/
theorem Text.UnitForm.detect_eq_none {a b : UInt8} (ha : a ≠ 0) (hb : b ≠ 0) (rest : List UInt8) :
    detect (a :: b :: rest) = none := by
  unfold detect
  split
  next heq =>
    obtain ⟨rfl, rfl, -⟩ := by simpa using heq
    rw [if_neg ha, if_neg hb]
  next heq =>
    obtain ⟨rfl, rfl, -⟩ := by simpa using heq
    rw [if_neg ha, if_neg hb]
  next => rfl

/-- A text of an object opens with a brace, and a quote or the other brace. -/
theorem Json.exists_write_object (entries : Entries) :
    ∃ c rest, (c = '"' ∨ c = '\x7d') ∧ (write (.object entries)).toList = '\x7b' :: c :: rest := by
  rw [toList_write_object]
  match entries with
  | [] => exact ⟨'\x7d', [], .inr rfl, rfl⟩
  | [(key, value)] =>
      rw [entryChars_singleton, List.append_assoc, toList_writeText]
      exact ⟨'"', _, .inl rfl, rfl⟩
  | (key, value) :: next :: rest =>
      rw [entryChars_cons_cons, List.append_assoc, toList_writeText]
      exact ⟨'"', _, .inl rfl, rfl⟩

namespace Request

variable {target : String} {address : Address} {route : Route} {entries : Entries}

/-- Posts a value as JSON. -/
def posting (target : String) (v : Value) : Request :=
  ⟨"POST", target, "application/json", Json.write v, .other⟩

theorem bodyText?_posting (target : String) (entries : Entries) :
    (posting target (.object entries)).bodyText? = some (Json.write (.object entries)) := by
  obtain ⟨c, rest, hc, hbody⟩ := exists_write_object entries
  have hopen : String.utf8EncodeChar '\x7b' = [0x7b] := by decide
  obtain ⟨byte, hne, hbyte⟩ : ∃ byte, byte ≠ 0 ∧ String.utf8EncodeChar c = [byte] := by
    rcases hc with rfl | rfl
    · exact ⟨0x22, by decide, by decide⟩
    · exact ⟨0x7d, by decide, by decide⟩
  unfold bodyText? posting
  simp only [hbody, List.flatMap_cons, hopen, hbyte, List.cons_append, List.nil_append,
    Text.UnitForm.detect_eq_none (show (0x7b : UInt8) ≠ 0 by decide) hne]
  split
  next heq => cases heq
  next => rfl

theorem address_posting (target : String) (v : Value) :
    (posting target v).address = (Address.ofTarget target).mapError .address := by
  have hwhole := Text.unencodable?_of_whole (s := Json.write v) (ascii_write v).not_isHalf
  have hheader : ("application/json".toList.any fun c => c == '\n' || c == '\r') = false := by
    decide +kernel
  unfold address posting
  simp only [hwhole, hheader]
  cases Address.ofTarget target with
  | error problem => rfl
  | ok address => rfl

/-- An object that is read as it is can be posted to any address. -/
theorem posts_posting (haddress : Address.ofTarget target = .ok address)
    (hroute : Destination.of address.path "POST" = .route route)
    (h : Settled depthLimit (.object entries)) :
    (posting target (.object entries)).Posts route (.object entries) where
  post := rfl
  led := by
    refine ⟨address, ?_, hroute⟩
    rw [address_posting, haddress]
    rfl
  json := by
    have hjson : isJsonType "application/json" = true := by decide +kernel
    exact hjson
  text := by
    refine ⟨_, bodyText?_posting target entries, (ascii_write _).not_isHalf, ?_⟩
    rw [← Attempt.toOption_eq_some_iff, read_write]
    exact h

end Request

/-- What the web gets of the end of a route.  A response is not shown if it has a moment that
the calendar does not have in universal time. -/
def Response.sent (outcome : Except Fault Response) : Response :=
  match outcome >>= Response.forWeb with
  | .ok shown => shown
  | .error fault => .ofFault fault

namespace Service

variable {clock : Clock} {q : Queue} {s t : Station} {request : Request} {route : Route}
variable {data : Value} {event : Event} {outcome : Except Fault Response}

theorem gives_answerBy {address : Address} (hverb : request.verb ≠ "OPTIONS")
    (hanswer : (answer clock q request address route).Gives s outcome t) :
    (answerBy clock q request address route).Gives s (.ok (.sent outcome)) t := by
  have hshown : (do Attempt.ofExcept (← answer clock q request address route).forWeb :
      Attempt Station Response).Gives s (outcome >>= Response.forWeb) t := by
    cases outcome with
    | error fault => exact hanswer.bind_error
    | ok response => exact hanswer.bind_ok (Attempt.gives_ofExcept _ t)
  unfold answerBy
  rw [if_neg hverb]
  apply hshown.guarded.bind_ok
  rw [Response.sent]
  cases outcome >>= Response.forWeb with
  | ok shown => exact Attempt.gives_pure shown t
  | error fault =>
      dsimp only
      split
      · exact (Attempt.gives_note _ _ _ t).bind_ok (Attempt.gives_pure _ t)
      · exact Attempt.gives_pure _ t

/-- What a route gives for a posted request is sent back. -/
theorem gives_respond_of_sends (h : request.Sends route)
    (hanswer : ∀ address, (answer clock q request address route).Gives s outcome t) :
    (respond clock q request).Gives s (.ok (.sent outcome)) t := by
  obtain ⟨address, haddress, hled⟩ := h.led
  have hdirect : (direct clock q request address).Gives s (.ok (.sent outcome)) t := by
    have hother : request.verb ≠ "OPTIONS" := by
      rw [h.verb]
      decide
    rw [direct, h.verb, hled]
    exact gives_answerBy hother (hanswer address)
  have hmethod : request.method ≠ "HEAD" := by
    rw [h.post]
    decide
  unfold respond
  rw [haddress]
  apply (Attempt.gives_ofExcept _ s).bind_ok
  apply hdirect.bind_ok
  rw [if_neg hmethod]
  exact Attempt.gives_pure _ t

theorem gives_respond (h : request.Posts route data)
    (hanswer : ∀ address, (answer clock q request address route).Gives s outcome t) :
    (respond clock q request).Gives s (.ok (.sent outcome)) t :=
  gives_respond_of_sends h.sends hanswer

theorem gives_body (h : request.Posts route data) (s : Station) :
    (body request).Gives s (.ok data) s := by
  rw [body, h.data_eq]
  exact Attempt.gives_ofExcept _ s

theorem gives_withEvent {desk : Desk} {next : Event → Attempt Station Response}
    {result : Except Fault Response}
    (hread : (Desk.readEvent clock data).Gives s.desk (.ok event) desk)
    (hnext : (next event).Gives { s with desk } result t) :
    (withEvent clock data next).Gives s result t := by
  obtain ⟨draft, -, hdraft, -⟩ := Desk.exists_draft_of_readEvent hread
  unfold withEvent
  rw [Event.Draft.isTruthy_of_read hdraft]
  exact (Station.gives_onDesk hread).guarded.bind_ok hnext

/-- The answer to an event that was run through the active workflows. -/
def handled (event : Event) (executions : List Execution) : Response :=
  .json 200 [
    ("event_id", .text event.id),
    ("results", .list (executions.map Execution.toValue)),
    ("count", .int executions.length),
    ("matched", .int (executions.filter Execution.matched).length)]

theorem gives_handleEvent {desk after : Desk} {executions : List Execution}
    (hread : (Desk.readEvent clock data).Gives s.desk (.ok event) desk)
    (hhandle : (Desk.handle clock event).Gives desk (.ok executions) after) :
    (handleEvent clock data).Gives s (.ok (handled event executions)) { s with desk := after } := by
  apply gives_withEvent hread
  have hdesk := Station.gives_onDesk (s := { s with desk }) hhandle
  exact hdesk.bind_ok (Attempt.gives_pure _ _)

/-- The answer to an event that was put on the queue. -/
def accepted (event : Event) (message : Message) : Response :=
  .json 202 [
    ("event_id", .text event.id), ("message_id", message.id), ("status", .text "queued")]

/-- The answer to what a publish came to, which is no message for a duplicate. -/
def published (event : Event) : Option Message → Response
  | none => .json 200 [("event_id", .text event.id), ("status", .text "duplicate")]
  | some message => accepted event message

theorem gives_enqueueEvent_of_delay {desk : Desk} {delay : ℤ}
    {result : Except Fault (Option Message)} {b : Broker}
    (hread : (Desk.readEvent clock data).Gives s.desk (.ok event) desk)
    (hdelay : delayOf? data = some delay)
    (hpublish : (q.publish clock.seconds event (.int delay) true).Gives s.broker result b) :
    (enqueueEvent clock q data).Gives s (result.map (published event))
      { s with desk, broker := b } := by
  apply gives_withEvent hread
  rw [hdelay]
  have hbroker := Station.gives_onBroker (s := { s with desk }) hpublish
  cases result with
  | error fault => exact hbroker.bind_error
  | ok message? =>
      cases message? with
      | none => exact hbroker.bind_ok (Attempt.gives_pure _ _)
      | some message => exact hbroker.bind_ok (Attempt.gives_pure _ _)

theorem gives_enqueueEvent {desk : Desk} {result : Except Fault (Option Message)} {b : Broker}
    (hread : (Desk.readEvent clock data).Gives s.desk (.ok event) desk)
    (hdelay : (data.entries?.getD []).lookup "delay_seconds" = none)
    (hpublish : (q.publish clock.seconds event (.int 0) true).Gives s.broker result b) :
    (enqueueEvent clock q data).Gives s (result.map (published event))
      { s with desk, broker := b } :=
  gives_enqueueEvent_of_delay hread (by rw [delayOf?, hdelay]) hpublish

theorem sent_accepted {message : Message} {id : String} (h : message.id = .text id)
    (event : Event) : Response.sent (.ok (accepted event message)) = accepted event message := by
  rw [accepted, h]
  rfl

end Service

end CaseWorkflow
