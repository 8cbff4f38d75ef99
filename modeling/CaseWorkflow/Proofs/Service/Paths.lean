import CaseWorkflow.Proofs.Queue.Passage
import CaseWorkflow.Proofs.Registry.Handling
import CaseWorkflow.Proofs.Service.Posting
import CaseWorkflow.Proofs.Worker.Settling

/-!
# The two paths of an event

A posted event is handled at once, or put on the queue from which a worker takes it.  On both
paths the registry is given the same event, and comes to the same executions, calls and
counts.
-/

namespace CaseWorkflow

/-! ## What the worker makes of the only message -/

namespace Station

variable {s : Station} {clock : Clock} {q : Queue} {event : Event} {m : Message}
variable {executions : List Execution} {after : Desk} {b c : Broker}

theorem gives_processOne_handled (hserved : s.worker.served = true)
    (hclaim : (s.worker.queue.claim clock.seconds).Gives s.broker (.ok (.message m)) b)
    (hread : (Desk.readEvent clock m.event).Gives s.desk (.ok event) s.desk)
    (hhandle : (Desk.handle clock event).Gives s.desk (.ok executions) after)
    (hcomplete : (s.worker.queue.complete clock.seconds m).Gives b (.ok ()) c) :
    (processOne clock).Gives s (.ok .handled)
      { desk := after, broker := c, worker := rested s.worker } := by
  have hrun : (runner clock s.worker event).Gives s.desk (.ok executions) after := by
    rw [runner, if_pos hserved]
    exact hhandle
  have hattend := gives_attend (s := ⟨s.desk, b, busy s.worker m⟩) hrun hcomplete
  have hreceive := gives_receive (s := { s with broker := b }) hread hattend
  exact gives_processOne (gives_processWith hclaim hreceive)

/-- The queue of the service and of the worker is empty, and the worker has a registry. -/
structure Idle (s : Station) (q : Queue) (dead : List String) : Prop where
  served : s.worker.served = true
  name : s.worker.queue.name = q.name
  tidy : q.Tidy s.broker
  empty : q.board s.broker = ⟨[], [], [], dead⟩

/-- The message that the worker claims next carries the event.  The event comes to the executions
and the desk, and nothing is left of the message when the worker has processed it. -/
structure Delivers (s : Station) (clock : Clock) (message : Message) (event : Event)
    (executions : List Execution) (after : Desk) (dead : List String) : Prop where
  claimed : (s.worker.queue.claim clock.seconds).Ends s.broker fun result _ =>
    result = .ok (.message message)
  carried : (Desk.readEvent clock message.event).Gives s.desk (.ok event) s.desk
  handled : (Desk.handle clock event).Gives s.desk (.ok executions) after
  processed : ∃ broker, s.worker.queue.board broker = ⟨[], [], [], dead⟩ ∧
    (processOne clock).Gives s (.ok .handled) ⟨after, broker, rested s.worker⟩

/-! ## A station that waits for hearings -/

/-- A station with a reminder of hearings, whose worker asks for leases of so many seconds. -/
def hearingStation (leaseSeconds : ℤ) : Station where
  desk := (Desk.opened Desk.troubledHandlers (.int 1) none).afterAll
    [.activateTemplate Desk.firstClock (.text "audiencia-lembrete")]
  broker := Broker.empty
  worker := ⟨⟨"events", .int leaseSeconds, false⟩, 3, true, false, 0, none⟩

theorem idle_hearingStation (leaseSeconds : ℤ) :
    (hearingStation leaseSeconds).Idle Queue.minuteQueue [] where
  served := rfl
  name := rfl
  tidy := Queue.tidy_empty _
  empty := rfl

theorem posts_events {entries : Entries} (h : Json.Settled Json.depthLimit (.object entries)) :
    (Request.posting "/api/v1/events" (.object entries)).Posts .events (.object entries) := by
  have haddress : (Address.ofTarget "/api/v1/events").toOption
      = some ⟨"http", "localhost", "/api/v1/events", ""⟩ := by decide +kernel
  exact Request.posts_posting (Attempt.toOption_eq_some_iff.mp haddress) (by decide +kernel) h

theorem posts_eventQueue {entries : Entries} (h : Json.Settled Json.depthLimit (.object entries)) :
    (Request.posting "/api/v1/events/queue" (.object entries)).Posts .eventQueue
      (.object entries) := by
  have haddress : (Address.ofTarget "/api/v1/events/queue").toOption
      = some ⟨"http", "localhost", "/api/v1/events/queue", ""⟩ := by decide +kernel
  exact Request.posts_posting (Attempt.toOption_eq_some_iff.mp haddress) (by decide +kernel) h

theorem settled_hearingData : Json.Settled Json.depthLimit Message.hearingData := by
  have htime : Json.settledText "2024-05-10T09:30:00.250000-03:00"
      = "2024-05-10T09:30:00.250000-03:00" := by decide +kernel
  have hkind : Json.settledText "audiencia_proxima" = "audiencia_proxima" := by decide +kernel
  have hplain : Json.Plain Message.hearingData := by
    apply Json.Plain.object
    · decide
    · decide +kernel
    · simp only [List.forall_mem_cons, List.not_mem_nil, false_imp_iff, implies_true, and_true]
      exact ⟨.int 7, .text hkind, Message.plain_hearingEntity, .text htime⟩
  exact hplain.settled (by decide +kernel) (by decide +kernel)

theorem settled_deepEvent : Json.Settled Json.depthLimit Message.deepEvent.toValue := by
  have hid : Json.settledText Message.deepEvent.id = Message.deepEvent.id := by decide +kernel
  have hcontext : Json.Plain (.object Message.deepEvent.context) :=
    .object (by decide) (by simp [Table.keys, Message.deepEvent]) (by simp [Message.deepEvent])
  have hplain := Event.plain_toValue hid Message.plain_deepEntity hcontext
  exact hplain.settled (by decide +kernel) (by decide +kernel)

/-! ## At once or later -/

section Paths

variable {dead : List String} {now : Moment} {stop hold : Double} {seconds : ℤ} {data : Value}
variable {direct queued : Request} {desk : Desk}

theorem handled_at_once (hclock : clock.moment = .ok now) (hdirect : direct.Posts .events data)
    (hread : (Desk.readEvent clock data).Gives s.desk (.ok event) desk) :
    ∃ executions after, (Desk.handle clock event).Gives desk (.ok executions) after ∧
      (Service.respond clock q direct).Gives s
        (.ok (.sent (.ok (Service.handled event executions)))) { s with desk := after } := by
  obtain ⟨executions, after, hhandle⟩ := Desk.exists_gives_handle hclock event desk
  have hanswered := Service.gives_respond (q := q) hdirect fun _ =>
    (Service.gives_body hdirect s).bind_ok (Service.gives_handleEvent hread hhandle)
  exact ⟨executions, after, hhandle, hanswered⟩

/-- An event that is posted to the queue is answered by what its publish comes to. -/
theorem answered_by_publish {result : Except Fault (Option Message)}
    (hqueued : queued.Posts .eventQueue data)
    (hdelay : (data.entries?.getD []).lookup "delay_seconds" = none)
    (hread : (Desk.readEvent clock data).Gives s.desk (.ok event) desk)
    (hpublish : (q.publish clock.seconds event (.int 0) true).Gives s.broker result b) :
    (Service.respond clock q queued).Gives s (.ok (.sent (result.map (Service.published event))))
      { s with desk, broker := b } :=
  Service.gives_respond hqueued fun _ =>
    (Service.gives_body hqueued s).bind_ok (Service.gives_enqueueEvent hread hdelay hpublish)

/-- An event that does not nest too deep is put on the queue. -/
theorem queued_message (hidle : s.Idle q dead) (hqueued : queued.Posts .eventQueue data)
    (hdelay : (data.entries?.getD []).lookup "delay_seconds" = none)
    (hread : (Desk.readEvent clock data).Gives s.desk (.ok event) desk)
    (hdepth : Json.depth event.toValue < Json.writtenDepth)
    (hadmits : q.Admits s.broker clock.seconds event.id stop) :
    ∃ message text broker, message.event = event.toValue ∧
      (Service.respond clock q queued).Gives s (.ok (Service.accepted event message))
        { s with desk, broker } ∧
      s.worker.queue.Holds broker text message dead := by
  obtain ⟨text, hwrite, hdecode⟩ := Message.create_written
    (Desk.wrought_of_readEvent hqueued.wrought hread) hdepth (s.broker.issued + 1) clock.seconds
  obtain ⟨broker, hpublish, htidy, hboard⟩ := hidle.tidy.gives_publish_now hadmits hwrite
  have hanswered := answered_by_publish hqueued hdelay hread hpublish
  rw [Except.map, Service.published, Service.sent_accepted rfl] at hanswered
  have htext : Text.Whole text := Message.encode_of_write hwrite ▸ Message.whole_encode _
  have hid : Text.Whole s!"msg-{s.broker.issued + 1}" := (Message.ascii_idText _).not_isHalf
  rw [hidle.empty] at hboard
  have hholds : q.Holds broker text _ dead :=
    ⟨htidy, hboard, hadmits.whole.of_append.of_append, htext, hdecode, _, rfl, hid⟩
  exact ⟨_, text, broker, rfl, hanswered, hholds.of_name hidle.name⟩

/-- An event that nests too deep is not put on the queue, and the worker finds nothing. -/
theorem refused_too_deep (hidle : s.Idle q dead) (hqueued : queued.Posts .eventQueue data)
    (hdelay : (data.entries?.getD []).lookup "delay_seconds" = none)
    (hread : (Desk.readEvent clock data).Gives s.desk (.ok event) desk)
    (hdepth : Json.writtenDepth ≤ Json.depth event.toValue)
    (hadmits : q.Admits s.broker clock.seconds event.id stop) :
    ∃ fault t, (Service.respond clock q queued).Gives s (.ok (.sent (.error fault))) t ∧
      (processOne clock).Ends t fun result _ => result = .ok .idle := by
  have hdeep : Queue.Unqueueable event 0 := .inl (.inl hdepth)
  obtain ⟨fault, t, hpublish, htidy, hboard⟩ :=
    hidle.tidy.gives_publish_unqueueable hadmits hdeep
  have hwhole : Text.Whole s.worker.queue.name := hidle.name ▸ hadmits.whole.of_append.of_append
  have hwaiting : (s.worker.queue.board t).waiting = [] := by
    rw [Queue.board_of_name hidle.name, hboard, hidle.empty]
    rfl
  obtain ⟨u, hclaim⟩ :=
    (htidy.of_name hidle.name).gives_claim_nothing hwhole clock.seconds hwaiting
  exact ⟨fault, _, answered_by_publish hqueued hdelay hread hpublish,
    (gives_processOne (gives_processWith_nothing hclaim)).ends rfl⟩

end Paths

end Station

end CaseWorkflow
