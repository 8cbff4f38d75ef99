import CaseWorkflow.Proofs.Service.Paths
import CaseWorkflow.Proofs.Service.Standing

/-!
# Events that are posted twice

An event that brings an id is put on the queue once within a day, however often it is posted
and whatever the service, the worker and others do with the queue in between.
-/

namespace CaseWorkflow

open Attempt

namespace Event

/-- What a body can bring for the id of an event: an integer other than zero, or a text that is
not empty. -/
inductive Names : Value → String → Prop
  | int {i : ℤ} (h : i ≠ 0) : Names (.int i) (toString i)
  | text {s : String} (h : s ≠ "") : Names (.text s) s

variable {v : Value} {id : String}

theorem Names.readId (h : Names v id) : readId v = .ok (some id) := by
  cases h with
  | text hs => exact readId_text hs
  | @int i hi =>
      have htruthy : (Value.int i).isTruthy = true := by simpa [Value.isTruthy] using hi
      rw [Event.readId, htruthy]
      rfl

theorem Draft.id_of_names {data : Value} {draft : Draft}
    (hnames : Names ((data.entries?.getD []).field "id") id) (hread : read data = .ok draft) :
    draft.id = some id := by
  obtain ⟨entries, rfl⟩ := Draft.exists_entries hread
  have hid := (Draft.read_object_eq_ok.mp hread).2.1
  exact Except.ok.inj (hid.symm.trans hnames.readId)

end Event

theorem Desk.id_of_readEvent {clock : Clock} {desk t : Desk} {event : Event} {data : Value}
    {id : String} (hnames : Event.Names ((data.entries?.getD []).field "id") id)
    (h : (readEvent clock data).Gives desk (.ok event) t) : event.id = id := by
  obtain ⟨draft, moment, hread, -, rfl⟩ := exists_draft_of_readEvent h
  simp [Event.Draft.complete, Event.Draft.id_of_names hnames hread]

namespace Response

variable {response shown : Response} {outcome : Except Fault Response}

theorem status_of_forWeb (h : response.forWeb = .ok shown) : shown.status = response.status := by
  unfold forWeb at h
  split at h
  next v _ =>
    cases hdata : v.forWeb with
    | error fault => simp [hdata, Bind.bind, Except.bind] at h
    | ok data =>
        rw [hdata] at h
        obtain rfl := Except.ok.inj h
        rfl
  next =>
    obtain rfl := Except.ok.inj h
    rfl

theorem status_ofFault (fault : Fault) : (ofFault fault).status ≠ 202 := by
  cases fault <;> simp [ofFault, failure, json, data]

/-- Only what a route accepted is sent as accepted. -/
theorem exists_of_sent (h : (sent outcome).status = 202) :
    ∃ response, outcome = .ok response ∧ response.status = 202 := by
  cases outcome with
  | error fault => exact absurd h (status_ofFault fault)
  | ok response =>
      cases hshown : response.forWeb with
      | error fault =>
          have hsent : sent (.ok response) = ofFault fault := by
            simp [sent, Bind.bind, Except.bind, hshown]
          rw [hsent] at h
          exact absurd h (status_ofFault fault)
      | ok shown =>
          have hsent : sent (.ok response) = shown := by
            simp [sent, Bind.bind, Except.bind, hshown]
          rw [hsent] at h
          exact ⟨response, rfl, (status_of_forWeb hshown).symm.trans h⟩

end Response

namespace Service

variable {q : Queue} {s t : Station} {clock : Clock} {request : Request} {response : Response}
variable {data : Value} {id : String}

/-- The request posts data to the queue, which bring an id. -/
structure Identified (request : Request) (data : Value) (id : String) : Prop where
  sends : request.Sends .eventQueue
  data_eq : request.data = .ok data
  names : Event.Names ((data.entries?.getD []).field "id") id

/-- What is known once an answer of 202 was given: the key of the guard can be written, and the
guard stands for a day. -/
def Accepting (q : Queue) (id : String) (now : Double) (result : Except Fault Response)
    (t : Station) : Prop :=
  ∀ response, result = .ok response → response.status = 202 →
    Text.Whole (q.guardOf id) ∧ t.Guarded q id (Queue.windowEnd now)

theorem accepting_error (fault : Fault) (now : Double) (t : Station) :
    Accepting q id now (.error fault) t := by
  intro response heq
  cases heq

theorem accepting_json {status : ℕ} (h : status ≠ 202) (entries : Entries) (now : Double)
    (t : Station) : Accepting q id now (.ok (.json status entries)) t := by
  intro response heq hstatus
  obtain rfl := Except.ok.inj heq
  exact absurd hstatus h

theorem ends_onBroker_publish (s : Station) (q : Queue) (now : Double) (event : Event)
    (delay : Value) :
    (Station.onBroker (q.publish now event delay true)).Ends s fun result t => ∀ m,
      result = .ok (some m) → Text.Whole (q.guardOf event.id) ∧ t.worker = s.worker ∧
        q.Stands event.id (Queue.windowEnd now) t.broker := by
  apply (Ends.on (Queue.ends_publish_stands q s.broker now event delay)).mono
  rintro result t ⟨broker, rfl, hstands⟩ m hm
  obtain ⟨hwhole, hstands⟩ := hstands m hm
  exact ⟨hwhole, rfl, hstands⟩

theorem ends_enqueueEvent_accepting (hqueue : s.worker.queue.name = q.name)
    (hnames : Event.Names ((data.entries?.getD []).field "id") id) :
    (enqueueEvent clock q data).Ends s (Accepting q id clock.seconds) := by
  unfold enqueueEvent withEvent
  by_cases htruthy : data.isTruthy = true
  swap
  · rw [if_pos (by simpa using htruthy)]
    exact (gives_pure _ s).ends (accepting_json (by decide) _ _ s)
  rw [if_neg (by simpa using htruthy)]
  have hread : (Station.onDesk (Desk.readEvent clock data)).Gives s _ _ :=
    Station.gives_onDesk ⟨rfl, rfl⟩
  apply Ends.bind_ok hread.guarded
  split
  next event heq =>
    -- The id that is guarded is the one that the body brings, so no new one was drawn.
    obtain rfl := Desk.id_of_readEvent hnames ⟨heq, rfl⟩
    dsimp only
    split
    next => exact (gives_pure _ _).ends (accepting_json (by decide) _ _ _)
    next delay _ =>
      apply (ends_onBroker_publish _ q clock.seconds event (.int delay)).bind
      · exact fun fault t _ => accepting_error fault _ t
      intro message? t hstands
      cases message? with
      | none => exact (gives_pure _ t).ends (accepting_json (by decide) _ _ t)
      | some m =>
          obtain ⟨hwhole, hworker, hstands⟩ := hstands m rfl
          exact (gives_pure _ t).ends fun _ _ _ => ⟨hwhole, hworker ▸ hqueue, hstands⟩
  next => exact (gives_pure _ _).ends (accepting_json (by decide) _ _ _)
  next fault _ _ => exact (gives_fail fault _).ends (accepting_error fault _ _)

theorem gives_answer_eventQueue (h : Identified request data id) {outcome : Except Fault Response}
    (hqueued : (enqueueEvent clock q data).Gives s outcome t) (address : Address) :
    (answer clock q request address .eventQueue).Gives s outcome t := by
  have hread : (body request).Gives s (.ok data) s := by
    rw [body, h.data_eq]
    exact gives_ofExcept _ s
  exact hread.bind_ok hqueued

/-- An event that was accepted is guarded for a day. -/
theorem guarded_of_accepted (h : Identified request data id)
    (hqueue : s.worker.queue.name = q.name)
    (hposted : (respond clock q request).Gives s (.ok response) t)
    (hstatus : response.status = 202) :
    Text.Whole (q.guardOf id) ∧ t.Guarded q id (Queue.windowEnd clock.seconds) := by
  have hqueued : (enqueueEvent clock q data).Gives s _ _ := ⟨rfl, rfl⟩
  have hsent := gives_respond_of_sends h.sends (gives_answer_eventQueue h hqueued)
  obtain rfl := Except.ok.inj (hposted.1.symm.trans hsent.1)
  obtain rfl := hposted.2.symm.trans hsent.2
  obtain ⟨accepted, houtcome, haccepted⟩ := Response.exists_of_sent hstatus
  exact ends_enqueueEvent_accepting hqueue h.names accepted houtcome haccepted

/-- While its guard stands an event is a duplicate, and nothing is put on the queue. -/
theorem duplicate_of_guarded {draft : Event.Draft} {delay : ℤ} {now : Moment} {stop : Double}
    (h : Identified request data id) (hread : Event.Draft.read data = .ok draft)
    (hdelay : delayOf? data = some delay) (hwhole : Text.Whole (q.guardOf id))
    (hguarded : s.Guarded q id stop) (hclock : clock.moment = .ok now)
    (hwithin : clock.seconds.le stop = true) :
    (respond clock q request).Gives s
      (.ok (.json 200 [("event_id", .text id), ("status", .text "duplicate")]))
      { s with broker := { s.broker with issued := s.broker.issued + 1 } } := by
  have hid := Event.Draft.id_of_names h.names hread
  obtain ⟨moment, hstamp⟩ := Desk.exists_stamp hclock draft
  have hevent := Desk.gives_readEvent hread clock s.desk
  rw [hstamp, Desk.numbered, hid] at hevent
  obtain ⟨later, hlater⟩ : ∃ later, markEnd clock.seconds Queue.guardSeconds = .ok later :=
    Clock.exists_markEnd hclock (by decide) (by decide)
  have hpublish := hguarded.stands.gives_publish (draft.complete id moment) hwithin hwhole hlater
    (.int delay)
  have hqueued := gives_enqueueEvent_of_delay hevent hdelay hpublish
  exact gives_respond_of_sends h.sends (gives_answer_eventQueue h hqueued)

end Service

/-! ## What happens in between -/

/-- What can happen to a queue: the service is asked something, its worker takes a message, or
anyone does something with a queue of the same name. -/
inductive Station.Happening where
  | asked (request : Request)
  | processed
  | done (leaseSeconds : Value) (fresh : Bool) (deed : Queue.Deed)

namespace Station

variable {q : Queue} {s t : Station} {clock : Clock} {id : String} {stop : Double}

def happen (q : Queue) (clock : Clock) : Happening → Attempt Station Unit
  | .asked request => do
    let _ ← Service.respond clock q request
  | .processed => do
    let _ ← processOne clock
  | .done leaseSeconds fresh deed =>
    onBroker (Queue.perform ⟨q.name, leaseSeconds, fresh⟩ clock.seconds deed)

/-- The station after all that happened to its queue, each at its time. -/
def afterAll (q : Queue) (s : Station) (happenings : List (Clock × Happening)) : Station :=
  happenings.foldl (fun s happening => ((happen q happening.1 happening.2).run s).state) s

theorem preserves_happen (hnow : clock.seconds.le stop = true) (happening : Happening) :
    (happen q clock happening).Preserves (Keeping (Guarded q id stop)) := by
  cases happening with
  | asked request =>
      exact (Service.preserves_respond hnow request).bind fun _ => preserves_pure ()
  | processed => exact (preserves_processOne clock).bind fun _ => preserves_pure ()
  | done leaseSeconds fresh deed =>
      exact preserves_onBroker (Queue.preserves_perform_stands
        (p := ⟨q.name, leaseSeconds, fresh⟩) (q := q) rfl hnow deed)

/-- The guard stands after all that happens before it ends. -/
theorem Guarded.afterAll {happenings : List (Clock × Happening)} (h : s.Guarded q id stop)
    (hwithin : ∀ happening ∈ happenings, happening.1.seconds.le stop = true) :
    (s.afterAll q happenings).Guarded q id stop := by
  induction happenings generalizing s with
  | nil => exact h
  | cons happening rest ih =>
      simp only [List.forall_mem_cons] at hwithin
      exact ih (preserves_happen hwithin.1 happening.2 s h) hwithin.2

end Station

namespace Service

variable {q : Queue} {s t : Station} {clock clock' : Clock} {first second : Request}
variable {response : Response} {data data' : Value} {id : String} {draft : Event.Draft} {delay : ℤ}
variable {now : Moment} {between : List (Clock × Station.Happening)}

/-- An event that was accepted is a duplicate when it is posted once more within a day. -/
theorem posted_twice (hqueue : s.worker.queue.name = q.name)
    (hfirst : Identified first data id) (hsecond : Identified second data' id)
    (hread : Event.Draft.read data' = .ok draft) (hdelay : delayOf? data' = some delay)
    (hposted : (respond clock q first).Gives s (.ok response) t) (hstatus : response.status = 202)
    (hbetween : ∀ happening ∈ between,
      happening.1.seconds.le (Queue.windowEnd clock.seconds) = true)
    (hclock : clock'.moment = .ok now)
    (hwithin : clock'.seconds.le (Queue.windowEnd clock.seconds) = true) :
    (respond clock' q second).Gives (t.afterAll q between)
      (.ok (.json 200 [("event_id", .text id), ("status", .text "duplicate")]))
      { t.afterAll q between with
        broker := { (t.afterAll q between).broker with
          issued := (t.afterAll q between).broker.issued + 1 } } := by
  obtain ⟨hwhole, hguarded⟩ := guarded_of_accepted hfirst hqueue hposted hstatus
  exact duplicate_of_guarded hsecond hread hdelay hwhole (hguarded.afterAll hbetween) hclock hwithin

/-! ## Posts without an id -/

/-- An event that can be written is accepted where its guard can be set. -/
theorem accepted_of_admits {request : Request} {event : Event} {desk : Desk} {stop : Double}
    (htidy : q.Tidy s.broker) (hposts : request.Posts .eventQueue data)
    (hdelay : (data.entries?.getD []).lookup "delay_seconds" = none)
    (hread : (Desk.readEvent clock data).Gives s.desk (.ok event) desk)
    (hdepth : Json.depth event.toValue < Json.writtenDepth)
    (hadmits : q.Admits s.broker clock.seconds event.id stop) :
    ∃ message broker, (respond clock q request).Gives s (.ok (accepted event message))
        { s with desk, broker } ∧
      (q.publish clock.seconds event (.int 0) true).Gives s.broker (.ok (some message)) broker ∧
      q.Tidy broker := by
  have hwrought := Desk.wrought_of_readEvent hposts.wrought hread
  obtain ⟨text, hwrite, -⟩ := Message.create_written hwrought hdepth (s.broker.issued + 1)
    clock.seconds
  obtain ⟨broker, hpublish, htidy, -⟩ := htidy.gives_publish_now hadmits hwrite
  have hanswered := Station.answered_by_publish hposts hdelay hread hpublish
  rw [Except.map, published, sent_accepted rfl] at hanswered
  exact ⟨_, broker, hanswered, hpublish, htidy⟩

/-- The places of the queue are tidy, and no id that the desk has still to give has a guard. -/
structure Unforestalled (q : Queue) (s : Station) : Prop where
  tidy : q.Tidy s.broker
  bare : ∀ n, s.desk.issued < n → s.broker.Bare (q.guardOf s!"id-{n}")
  unmarked : ∀ n, s.desk.issued < n → s.broker.marks.lookup (q.guardOf s!"id-{n}") = none

theorem Unforestalled.holding? (h : Unforestalled q s) (now : Double) :
    s.broker.holding? now (q.guardOf s.desk.freshId) = none := by
  have hunmarked : s.broker.isMarked now (q.guardOf s.desk.freshId) = false := by
    rw [Broker.isMarked, Desk.freshId, h.unmarked _ (Nat.lt_succ_self _)]
  have hbare : s.broker.Bare (q.guardOf s.desk.freshId) := h.bare _ (Nat.lt_succ_self _)
  simp [hbare.holding?, hunmarked]

/-- A publish under a new id leaves the ids that are still to come without a guard. -/
theorem Unforestalled.published {event : Event} {message : Message} {broker : Broker} {desk : Desk}
    (h : Unforestalled q s) (hid : event.id = s.desk.freshId)
    (hpublish : (q.publish clock.seconds event (.int 0) true).Gives s.broker (.ok (some message))
      broker)
    (htidy : q.Tidy broker) (hissued : desk.issued = s.desk.issued + 1) :
    Unforestalled q { s with desk, broker } := by
  have hstays : (q.publish clock.seconds event (.int 0) true).Preserves q.StaysBare :=
    (q.keptByPlaces_staysBare clock.seconds).publish (fun _ _ _ hbare => hbare)
      (fun b => Queue.staysBare_refreshed b _ _) (fun b stop => Queue.staysBare_withMark b _ stop)
      (.int 0) true
  have hbare : s.broker.Bare (q.guardOf event.id) := hid ▸ h.bare _ (Nat.lt_succ_self _)
  refine ⟨htidy, fun n hn => ?_, fun n hn => ?_⟩
  · have hkept : q.StaysBare s.broker broker := hpublish.2 ▸ hstays s.broker
    exact hkept _ (q.guardOf_not_mem_placeKeys _) (h.bare n (by dsimp only at hn; omega))
  · -- The publish sets one guard, that of the id that was the next to be given.
    have hwindows := h.tidy.ends_publish_windows hbare clock.seconds (.int 0) true
    rw [Ends, hpublish.1, hpublish.2] at hwindows
    have hother : s!"id-{n}" ≠ event.id := by
      rw [hid]
      intro heq
      have hsame : n = s.desk.issued + 1 := append_repr_injective heq
      dsimp only at hn
      omega
    have hmark := hwindows.2 s!"id-{n}"
    rw [if_neg (fun heq => hother heq.2)] at hmark
    exact hmark.trans (h.unmarked n (by dsimp only at hn; omega))

/-- A post whose body brings no id is accepted under an id of its own, and so is the next. -/
theorem unidentified_accepted {request : Request} (h : Unforestalled q s)
    (hposts : request.Posts .eventQueue data) (hread : Event.Draft.read data = .ok draft)
    (hid : draft.id = none) (hdelay : (data.entries?.getD []).lookup "delay_seconds" = none)
    (hdepth : ∀ id moment, Json.depth (draft.complete id moment).toValue < Json.writtenDepth)
    (hname : Text.Whole q.name) (hclock : clock.moment = .ok now) :
    ∃ response t, (respond clock q request).Gives s (.ok response) t ∧ response.status = 202 ∧
      Unforestalled q t := by
  obtain ⟨moment, hstamp⟩ := Desk.exists_stamp hclock draft
  have hevent : (Desk.readEvent clock data).Gives s.desk
      (.ok (draft.complete s.desk.freshId moment)) { s.desk with issued := s.desk.issued + 1 } := by
    have hgives := Desk.gives_readEvent hread clock s.desk
    rw [hstamp, Desk.numbered, hid] at hgives
    exact hgives
  have hwhole : Text.Whole s.desk.freshId := by
    have hascii : Json.Ascii s.desk.freshId.toList := by
      rw [Desk.toList_freshId]
      exact Json.Ascii.append_toDigits (by decide) _
    exact hascii.not_isHalf
  obtain ⟨stop, hadmits⟩ := Queue.exists_admits hclock hname hwhole (h.holding? clock.seconds)
  obtain ⟨message, broker, hanswered, hpublish, htidy⟩ :=
    accepted_of_admits h.tidy hposts hdelay hevent (hdepth _ _) hadmits
  exact ⟨_, _, hanswered, rfl, h.published rfl hpublish htidy rfl⟩

/-! ### Comments with an id, and with the id zero -/

/-- The data of a comment with an id. -/
def commentData (id : Value) : Entries := [("id", id), ("type", .text "comentario_adicionado")]

/-- Posts a comment with an id to the queue. -/
def postingComment (id : Value) : Request :=
  .posting "/api/v1/events/queue" (.object (commentData id))

theorem posts_comment {v : Value} (h : Json.Plain v) (hdepth : Json.depth v = 0)
    (hlegible : Json.isLegible v = true) :
    (postingComment v).Posts .eventQueue (.object (commentData v)) := by
  have hkeys : (commentData v).keys = ["id", "type"] := rfl
  have hkind : Json.settledText "comentario_adicionado" = "comentario_adicionado" := by
    decide +kernel
  have hplain : Json.Plain (.object (commentData v)) := by
    apply Json.Plain.object
    · rw [hkeys]
      decide
    · rw [hkeys]
      decide +kernel
    · simp [commentData, h, Json.Plain.text hkind]
  apply Station.posts_eventQueue
  apply hplain.settled
  · simp [commentData, Json.depth, Json.entriesDepth, hdepth, Json.depthLimit]
  · simp [commentData, Json.isLegible, Json.haveLegible, hlegible]

theorem read_comment {v : Value} {id : Option String} (h : Event.readId v = .ok id) :
    Event.Draft.read (.object (commentData v)) = .ok ⟨id, .commentAdded, [], [], none⟩ :=
  Event.Draft.read_object_eq_ok.mpr ⟨⟨Vocabulary.find?_value .commentAdded, rfl, rfl⟩, h, rfl⟩

theorem depth_comment (id? : Option String) (id : String) (moment : Moment) :
    Json.depth ((⟨id?, .commentAdded, [], [], none⟩ : Event.Draft).complete id moment).toValue
      < Json.writtenDepth := by
  simp [Event.Draft.complete, Event.toValue, Vocabulary.value, Json.depth, Json.entriesDepth,
    Json.writtenDepth]

/-- A comment is processed, and another one is posted. -/
def inBetween : List (Clock × Station.Happening) :=
  [(Desk.firstClock, .processed), (Desk.firstClock, .asked (postingComment (.int 0)))]

/-- A comment with an id is accepted where its guard can be set. -/
theorem comment_accepted {v : Value} {id : String} {now : Moment} (h : Event.Names v id)
    (hposts : (postingComment v).Posts .eventQueue (.object (commentData v)))
    (hclock : clock.moment = .ok now) (htidy : q.Tidy s.broker) (hname : Text.Whole q.name)
    (hid : Text.Whole id) (hfree : s.broker.holding? clock.seconds (q.guardOf id) = none) :
    ∃ response t, (respond clock q (postingComment v)).Gives s (.ok response) t ∧
      response.status = 202 := by
  obtain ⟨stop, hadmits⟩ := Queue.exists_admits hclock hname hid hfree
  have hevent : (Desk.readEvent clock (.object (commentData v))).Gives s.desk
      (.ok ⟨id, .commentAdded, [], [], now⟩) s.desk := by
    have hgives := Desk.gives_readEvent (read_comment h.readId) clock s.desk
    rw [Desk.stamp, hclock] at hgives
    exact hgives
  obtain ⟨message, broker, hanswered, -⟩ := accepted_of_admits htidy hposts rfl hevent
    (depth_comment none id now) hadmits
  exact ⟨_, _, hanswered, rfl⟩

theorem posted_twice_comment :
    Identified (postingComment (.int 7)) (.object (commentData (.int 7))) "7" ∧
      Identified (postingComment (.text "7")) (.object (commentData (.text "7"))) "7" ∧
      ∃ response t u, (respond Desk.firstClock Queue.minuteQueue (postingComment (.int 7))).Gives
          (Station.hearingStation 60) (.ok response) t ∧ response.status = 202 ∧
        (respond Desk.firstClock Queue.minuteQueue (postingComment (.text "7"))).Gives
          (t.afterAll Queue.minuteQueue inBetween)
          (.ok (.json 200 [("event_id", .text "7"), ("status", .text "duplicate")])) u := by
  obtain ⟨now, hclock⟩ := Desk.exists_moment_firstClock
  have hsettled : Json.settledText "7" = "7" := by decide +kernel
  have hposts := posts_comment (.int 7) rfl (by decide +kernel)
  have hposts' := posts_comment (.text hsettled) rfl rfl
  have hfirst : Identified (postingComment (.int 7)) (.object (commentData (.int 7))) "7" :=
    ⟨hposts.sends, hposts.data_eq, .int (by decide)⟩
  have hsecond : Identified (postingComment (.text "7")) (.object (commentData (.text "7"))) "7" :=
    ⟨hposts'.sends, hposts'.data_eq, .text (by decide)⟩
  have hidle := Station.idle_hearingStation 60
  obtain ⟨response, t, hposted, hstatus⟩ := comment_accepted hfirst.names hposts hclock hidle.tidy
    (by decide) (by decide) rfl
  have hbetween : ∀ happening ∈ inBetween,
      happening.1.seconds.le (Queue.windowEnd Desk.firstClock.seconds) = true := by decide +kernel
  have hduplicate := posted_twice hidle.name hfirst hsecond (read_comment hsecond.names.readId) rfl
    hposted hstatus hbetween hclock (by decide +kernel)
  exact ⟨hfirst, hsecond, response, t, _, hposted, hstatus, hduplicate⟩

/-- A comment whose id is zero is accepted both times. -/
theorem zero_accepted_twice :
    ∃ response response' t u,
      (respond Desk.firstClock Queue.minuteQueue (postingComment (.int 0))).Gives
          (Station.hearingStation 60) (.ok response) t ∧ response.status = 202 ∧
        (respond Desk.firstClock Queue.minuteQueue (postingComment (.int 0))).Gives t
          (.ok response') u ∧ response'.status = 202 := by
  obtain ⟨now, hclock⟩ := Desk.exists_moment_firstClock
  have hposts := posts_comment (.int 0) rfl (by decide +kernel)
  have hread : Event.Draft.read (.object (commentData (.int 0))) = _ := read_comment rfl
  have hopen : Unforestalled Queue.minuteQueue (Station.hearingStation 60) :=
    ⟨(Station.idle_hearingStation 60).tidy, fun _ _ => ⟨rfl, rfl⟩, fun _ _ => rfl⟩
  obtain ⟨response, t, hfirst, hstatus, hopen⟩ := unidentified_accepted hopen hposts hread rfl rfl
    (depth_comment _) (by decide) hclock
  obtain ⟨response', u, hsecond, hstatus', -⟩ := unidentified_accepted hopen hposts hread rfl rfl
    (depth_comment _) (by decide) hclock
  exact ⟨response, response', t, u, hfirst, hstatus, hsecond, hstatus'⟩

end Service

end CaseWorkflow
