import CaseWorkflow.Proofs.Registry.Offering
import CaseWorkflow.Proofs.Service.Paths
import CaseWorkflow.Proofs.Service.Showing

/-!
# Activating over the web

A body asks for a template by its id, or else for a definition of its own.  What it asks for is
placed at the end of the registry, and other bodies are refused and change nothing; but the
route does not foresee every body.
-/

namespace CaseWorkflow

theorem Workflow.definition_of_ofDefinition {d : Definition} {w : Workflow}
    (h : ofDefinition d = .ok w) : w.definition = d := by
  unfold ofDefinition at h
  split at h
  next =>
    obtain rfl := Except.ok.inj h
    rfl
  next => cases h

theorem Catalog.get_eq_error {c : Catalog} {v : Value} {fault : Fault}
    (h : c.get v = .error fault) :
    v.isKey = false ∧ fault = .notAKey v ∨ v.isKey = true ∧ fault = .templateMissing v := by
  unfold get find? at h
  cases htext : v.text? with
  | some id =>
      have hkey : v.isKey = true := by
        cases v with
        | list | object => cases htext
        | _ => rfl
      rw [htext] at h
      cases hfound : c.templates.find? fun w => w.idText == id with
      | some w =>
          simp only [hfound] at h
          cases h
      | none =>
          simp only [hfound] at h
          cases h
          exact .inr ⟨hkey, rfl⟩
  | none =>
      rw [htext] at h
      cases hkey : v.isKey with
      | false =>
          simp only [hkey] at h
          cases h
          exact .inl ⟨rfl, rfl⟩
      | true =>
          simp only [hkey] at h
          cases h
          exact .inr ⟨rfl, rfl⟩

theorem Catalog.isKey_of_get {c : Catalog} {v : Value} {w : Workflow} (h : c.get v = .ok w) :
    v.isKey = true := by
  cases v with
  | list | object => cases h
  | _ => rfl

namespace Service

variable {clock : Clock} {now : Moment} {q : Queue} {s t : Station} {c : Catalog} {desk : Desk}
variable {entries : Entries} {data : Value} {w : Workflow} {outcome : Except Fault Response}
variable {request : Request}

/-- The workflow that a body asks for: the template that it names, or else its definition. -/
inductive Asks (c : Catalog) : Value → Workflow → Prop
  | template {entries : Entries} {w : Workflow}
      (hnamed : (entries.field "template_id").isTruthy = true)
      (hfound : c.get (entries.field "template_id") = .ok w) : Asks c (.object entries) w
  | definition {entries : Entries} {w : Workflow}
      (hnone : (entries.field "template_id").isTruthy = false)
      (hgiven : (entries.field "definition").isTruthy = true)
      (hread : Definition.read (entries.field "definition") = .ok w.definition) :
      Asks c (.object entries) w

theorem Asks.unique {other : Workflow} (h : Asks c data w) (h' : Asks c data other) :
    w = other := by
  cases h with
  | template hnamed hfound =>
      cases h' with
      | template _ hfound' => exact Except.ok.inj (hfound.symm.trans hfound')
      | definition hnone => simp [hnamed] at hnone
  | definition hnone _ hread =>
      cases h' with
      | template hnamed => simp [hnone] at hnamed
      | definition _ _ hread' =>
          have hsame : w.definition = other.definition :=
            Except.ok.inj (hread.symm.trans hread')
          obtain ⟨definition, hsound⟩ := w
          obtain ⟨definition', hsound'⟩ := other
          obtain rfl : definition = definition' := hsame
          rfl

/-- An object with a truthy field is truthy. -/
theorem isTruthy_of_field {key : String} (h : (entries.field key).isTruthy = true) :
    (Value.object entries).isTruthy = true := by
  cases entries with
  | nil => simp [Entries.field, Value.isTruthy] at h
  | cons entry rest => rfl

theorem Asks.isTruthy (h : Asks c data w) : data.isTruthy = true := by
  cases h with
  | template hnamed _ => exact isTruthy_of_field hnamed
  | definition _ hgiven _ => exact isTruthy_of_field hgiven

/-- The bodies that the route does not foresee: one that nests too deep to be read, one that is
no object, an id that cannot be looked up, and what can be found or read but not be copied, or
not be shown. -/
inductive Unforeseen (desk : Desk) (now : Moment) : Except Json.Error Value → Prop
  | unread (error : Json.Error) : Unforeseen desk now (.error error)
  | noObject {data : Value} (htruthy : data.isTruthy = true) (hnone : data.entries? = none) :
      Unforeseen desk now (.ok data)
  | noKey {entries : Entries} (htruthy : (entries.field "template_id").isTruthy = true)
      (hkey : (entries.field "template_id").isKey = false) :
      Unforeseen desk now (.ok (.object entries))
  | tooDeep {data : Value} {w : Workflow} (hasks : Asks desk.registry.catalog data w)
      (hdeep : w.isCopyable = false) : Unforeseen desk now (.ok data)
  | unshown {entries : Entries} {w : Workflow} {fault : Fault}
      (hnamed : (entries.field "template_id").isTruthy = true)
      (hfound : desk.registry.catalog.get (entries.field "template_id") = .ok w)
      (hshown : (Instance.create desk.freshId w now).toValue.forWeb = .error fault) :
      Unforeseen desk now (.ok (.object entries))

theorem Asks.not_noObject (h : Asks c data w) : data.entries? ≠ none := by
  cases h <;> simp [Value.entries?]

theorem Asks.isKey (h : Asks c (.object entries) w)
    (htruthy : (entries.field "template_id").isTruthy = true) :
    (entries.field "template_id").isKey = true := by
  cases h with
  | template _ hfound => exact Catalog.isKey_of_get hfound
  | definition hnone => simp [htruthy] at hnone

/-- What the route foresees: the instance that was asked for and placed at the end, or a refusal
that leaves everything as it was. -/
inductive Outcome (s : Station) (now : Moment) (data : Value) :
    Except Fault Response → Station → Prop
  | created {w : Workflow} (hasks : Asks s.desk.registry.catalog data w)
      (hcopies : w.isCopyable = true) :
      Outcome s now data (.ok (.data 201 (Instance.create s.desk.freshId w now).toValue))
        { s with desk := s.desk.placed (.create s.desk.freshId w now) }
  | refused {response : Response} (hstatus : response.status = 400 ∨ response.status = 404)
      (hshown : response.forWeb = .ok response)
      (hnone : ∀ w, ¬Asks s.desk.registry.catalog data w)
      (hforeseen : ¬Unforeseen s.desk now (.ok data)) : Outcome s now data (.ok response) s
  | failed {fault : Fault} {t : Station} (h : Unforeseen s.desk now (.ok data))
      (hstatus : (Response.ofFault fault).status = 500)
      (hkept : t.desk.registry = s.desk.registry) : Outcome s now data (.error fault) t

/-! ## What the route comes to -/

/-- What the route makes of the faults that it answers itself. -/
def answered : Except Fault Response → Except Fault Response
  | .error (.invalid i) => .ok (.problems i)
  | .error (.instanceMissing id) => .ok (.refusal 404 (Fault.instanceMissing id).message)
  | .error (.templateMissing id) => .ok (.refusal 404 (Fault.templateMissing id).message)
  | outcome => outcome

theorem gives_answering {attempt : Attempt Station Response} (h : attempt.Gives s outcome t) :
    (answering attempt).Gives s (answered outcome) t := by
  unfold answering
  apply h.guarded.bind_ok
  cases outcome with
  | ok response => exact Attempt.gives_pure response t
  | error fault =>
      cases fault with
      | invalid | instanceMissing | templateMissing => exact Attempt.gives_pure _ t
      | _ => exact Attempt.gives_fail _ t

theorem gives_activate_blank (h : data.isTruthy = false) (clock : Clock) (s : Station) :
    (activate clock data).Gives s (.ok (.refusal 400 "Request body required")) s := by
  unfold activate
  rw [h]
  exact Attempt.gives_pure _ s

theorem gives_activate_noObject (htruthy : data.isTruthy = true) (hnone : data.entries? = none)
    (clock : Clock) (s : Station) :
    (activate clock data).Gives s
      (.error (.wrongKind s!"'{data.kindName}' object has no attribute 'get'")) s := by
  unfold activate
  rw [htruthy]
  have hfails : (bodyEntries data >>= activateNamed clock).Gives s
      (.error (.wrongKind s!"'{data.kindName}' object has no attribute 'get'")) s := by
    rw [bodyEntries, hnone]
    exact (Attempt.gives_fail _ s).bind_error
  exact gives_answering hfails

theorem gives_activate_object (htruthy : (Value.object entries).isTruthy = true)
    (h : (activateNamed clock entries).Gives s outcome t) :
    (activate clock (.object entries)).Gives s (answered outcome) t := by
  unfold activate
  rw [htruthy]
  exact gives_answering ((Attempt.gives_pure entries s).bind_ok h)

theorem gives_activateNamed_template {result : Except Fault Instance}
    (hnamed : (entries.field "template_id").isTruthy = true)
    (h : (Desk.activateTemplate clock (entries.field "template_id")).Gives s.desk result desk) :
    (activateNamed clock entries).Gives s (result.map fun i => .data 201 i.toValue)
      { s with desk } := by
  unfold activateNamed
  rw [if_pos hnamed]
  cases result with
  | error fault => exact (Station.gives_onDesk h).bind_error
  | ok i => exact (Station.gives_onDesk h).bind_ok (Attempt.gives_pure _ _)

theorem gives_activateNamed_definition {result : Except Fault Instance} {d : Definition}
    (hnone : (entries.field "template_id").isTruthy = false)
    (hgiven : (entries.field "definition").isTruthy = true)
    (hread : Definition.read (entries.field "definition") = .ok d)
    (h : (Desk.activate clock d).Gives s.desk result desk) :
    (activateNamed clock entries).Gives s (result.map fun i => .data 201 i.toValue)
      { s with desk } := by
  unfold activateNamed
  simp only [hnone, Bool.false_eq_true, if_false, hgiven, if_true, hread]
  cases result with
  | error fault => exact (Station.gives_onDesk h).bind_error
  | ok i => exact (Station.gives_onDesk h).bind_ok (Attempt.gives_pure _ _)

theorem gives_activateNamed_unread {invalid : Invalid}
    (hnone : (entries.field "template_id").isTruthy = false)
    (hgiven : (entries.field "definition").isTruthy = true)
    (hread : Definition.read (entries.field "definition") = .error invalid) (clock : Clock)
    (s : Station) : (activateNamed clock entries).Gives s (.error (.invalid invalid)) s := by
  unfold activateNamed
  simp only [hnone, Bool.false_eq_true, if_false, hgiven, if_true, hread]
  exact Attempt.gives_fail _ s

theorem gives_activateNamed_nothing
    (hnone : (entries.field "template_id").isTruthy = false)
    (hnothing : (entries.field "definition").isTruthy = false) (clock : Clock) (s : Station) :
    (activateNamed clock entries).Gives s
      (.ok (.refusal 400 "template_id or definition is required")) s := by
  unfold activateNamed
  simp only [hnone, hnothing, Bool.false_eq_true, if_false]
  exact Attempt.gives_pure _ s

/-! ## Refusals -/

theorem refusal_shown (status : ℕ) (message : String) :
    (Response.refusal status message).forWeb = .ok (.refusal status message) := rfl

theorem problems_shown (invalid : Invalid) :
    (Response.problems invalid).forWeb = .ok (.problems invalid) := by
  have hmessages : Timeless (.list (invalid.messages.map .text)) := by
    simp [Timeless.list_iff]
  have hbody : Timeless (.object [("error", .text invalid.message),
      ("problems", .list (invalid.messages.map .text))]) := by
    simp [hmessages]
  simp only [Response.problems, Response.json, Response.data, Response.forWeb, hbody.forWeb_eq]
  rfl

/-- A body for which no workflow is found is refused. -/
theorem Outcome.refused_object {response : Response}
    (hkey : (entries.field "template_id").isTruthy = true →
      (entries.field "template_id").isKey = true)
    (hnone : ∀ w, ¬Asks s.desk.registry.catalog (.object entries) w)
    (hstatus : response.status = 400 ∨ response.status = 404)
    (hshown : response.forWeb = .ok response) :
    Outcome s now (.object entries) (.ok response) s := by
  refine .refused hstatus hshown hnone ?_
  intro hunforeseen
  cases hunforeseen with
  | noObject _ hobject => cases hobject
  | noKey htruthy hnokey => simp [hkey htruthy] at hnokey
  | tooDeep hasks _ => exact hnone _ hasks
  | unshown hnamed hfound _ => exact hnone _ (.template hnamed hfound)

/-- What is asked for is placed, unless it cannot be copied. -/
theorem Outcome.of_asks (hasks : Asks s.desk.registry.catalog data w)
    (hclock : clock.moment = .ok now)
    (h : ∀ {result desk}, (Desk.activate clock w.definition).Gives s.desk result desk →
      (activate clock data).Gives s (answered (result.map fun i => .data 201 i.toValue))
        { s with desk }) :
    (activate clock data).Ends s (Outcome s now data) := by
  cases hcopies : w.isCopyable with
  | true => exact (h (Desk.gives_activate hcopies hclock s.desk)).ends (.created hasks hcopies)
  | false =>
      exact (h (Desk.gives_activate_of_not_copyable hcopies clock s.desk)).ends
        (.failed (.tooDeep hasks hcopies) rfl rfl)

theorem ends_activate_template (hclock : clock.moment = .ok now) (s : Station)
    (hnamed : (entries.field "template_id").isTruthy = true) :
    (activate clock (.object entries)).Ends s (Outcome s now (.object entries)) := by
  have htruthy : (Value.object entries).isTruthy = true := isTruthy_of_field hnamed
  cases hget : s.desk.registry.catalog.get (entries.field "template_id") with
  | ok w =>
      apply Outcome.of_asks (.template hnamed hget) hclock
      intro result desk hactivate
      have htemplate := Desk.gives_activateTemplate hget hactivate
      exact gives_activate_object htruthy (gives_activateNamed_template hnamed htemplate)
  | error fault =>
      have htemplate := Desk.gives_activateTemplate_error hget clock
      have hgives := gives_activate_object htruthy (gives_activateNamed_template hnamed htemplate)
      rcases Catalog.get_eq_error hget with ⟨hkey, rfl⟩ | ⟨hkey, rfl⟩
      · exact hgives.ends (.failed (.noKey hnamed hkey) rfl rfl)
      · have hnone : ∀ w, ¬Asks s.desk.registry.catalog (.object entries) w := by
          intro w hasks
          cases hasks with
          | template _ hfound => simp [hget] at hfound
          | definition hnone => simp [hnamed] at hnone
        exact hgives.ends (.refused_object (fun _ => hkey) hnone (.inr rfl) (refusal_shown _ _))

theorem ends_activate_definition (hclock : clock.moment = .ok now) (s : Station)
    (hnone : (entries.field "template_id").isTruthy = false)
    (hgiven : (entries.field "definition").isTruthy = true) :
    (activate clock (.object entries)).Ends s (Outcome s now (.object entries)) := by
  have htruthy : (Value.object entries).isTruthy = true := isTruthy_of_field hgiven
  have hkey : (entries.field "template_id").isTruthy = true →
      (entries.field "template_id").isKey = true := by
    intro hnamed
    simp [hnone] at hnamed
  cases hread : Definition.read (entries.field "definition") with
  | error invalid =>
      have hgives := gives_activate_object htruthy
        (gives_activateNamed_unread hnone hgiven hread clock s)
      have hasks : ∀ w, ¬Asks s.desk.registry.catalog (.object entries) w := by
        intro w hasks
        cases hasks with
        | template hnamed => simp [hnone] at hnamed
        | definition _ _ hfound => simp [hread] at hfound
      exact hgives.ends (.refused_object hkey hasks (.inl rfl) (problems_shown invalid))
  | ok d =>
      have hobject : ∀ {result desk}, (Desk.activate clock d).Gives s.desk result desk →
          (activate clock (.object entries)).Gives s
            (answered (result.map fun i => .data 201 i.toValue)) { s with desk } :=
        fun h => gives_activate_object htruthy
          (gives_activateNamed_definition hnone hgiven hread h)
      cases hworkflow : Workflow.ofDefinition d with
      | ok w =>
          obtain rfl := Workflow.definition_of_ofDefinition hworkflow
          exact Outcome.of_asks (.definition hnone hgiven hread) hclock hobject
      | error invalid =>
          have hfails : (Desk.activate clock d).Gives s.desk (.error (.invalid invalid))
              s.desk := by
            unfold Desk.activate
            rw [hworkflow]
            exact Attempt.gives_fail _ _
          have hasks : ∀ w, ¬Asks s.desk.registry.catalog (.object entries) w := by
            intro w hasks
            cases hasks with
            | template hnamed => simp [hnone] at hnamed
            | definition _ _ hfound =>
                obtain rfl := Except.ok.inj (hread.symm.trans hfound)
                simp [Workflow.ofDefinition_definition] at hworkflow
          exact (hobject hfails).ends
            (.refused_object hkey hasks (.inl rfl) (problems_shown invalid))

/-- Every body comes to one of these outcomes. -/
theorem ends_activate (hclock : clock.moment = .ok now) (data : Value) (s : Station) :
    (activate clock data).Ends s (Outcome s now data) := by
  by_cases htruthy : data.isTruthy = true
  · cases hentries : data.entries? with
    | none =>
        exact (gives_activate_noObject htruthy hentries clock s).ends
          (.failed (.noObject htruthy hentries) rfl rfl)
    | some entries =>
        obtain rfl := Value.eq_object_of_entries? hentries
        by_cases hnamed : (entries.field "template_id").isTruthy = true
        · exact ends_activate_template hclock s hnamed
        have hnone : (entries.field "template_id").isTruthy = false := by simpa using hnamed
        by_cases hgiven : (entries.field "definition").isTruthy = true
        · exact ends_activate_definition hclock s hnone hgiven
        have hnothing : (entries.field "definition").isTruthy = false := by simpa using hgiven
        have hasks : ∀ w, ¬Asks s.desk.registry.catalog (.object entries) w := by
          intro w hasks
          cases hasks with
          | template hnamed' => exact hnamed hnamed'
          | definition _ hgiven' => exact hgiven hgiven'
        exact (gives_activate_object htruthy
          (gives_activateNamed_nothing hnone hnothing clock s)).ends
            (.refused_object (fun h => absurd h hnamed) hasks (.inl rfl) (refusal_shown _ _))
  · have hblank : data.isTruthy = false := by simpa using htruthy
    have hasks : ∀ w, ¬Asks s.desk.registry.catalog data w := fun w hasks => htruthy hasks.isTruthy
    refine (gives_activate_blank hblank clock s).ends
      (.refused (.inl rfl) (refusal_shown _ _) hasks ?_)
    intro hunforeseen
    cases hunforeseen with
    | noObject htruthy' _ => exact htruthy htruthy'
    | noKey htruthy' _ => exact htruthy (isTruthy_of_field htruthy')
    | tooDeep hasks' _ => exact hasks _ hasks'
    | unshown hnamed _ _ => exact htruthy (isTruthy_of_field hnamed)

/-! ## Answers -/

/-- What is asked for and can be copied is unforeseen only if it cannot be shown. -/
theorem Asks.shown_of_unforeseen (hasks : Asks desk.registry.catalog data w)
    (hcopies : w.isCopyable = true) (h : Unforeseen desk now (.ok data)) :
    ∃ fault, (Instance.create desk.freshId w now).toValue.forWeb = .error fault := by
  cases h with
  | noObject _ hnone => exact absurd hnone hasks.not_noObject
  | noKey htruthy hkey => simp [hasks.isKey htruthy] at hkey
  | tooDeep hasks' hdeep =>
      obtain rfl := hasks.unique hasks'
      simp [hcopies] at hdeep
  | unshown hnamed hfound hshown =>
      obtain rfl := hasks.unique (.template hnamed hfound)
      exact ⟨_, hshown⟩

/-- The answer to a body: what it asks for was placed at the end of the registry and is shown, or
it asks for nothing that there is and nothing was changed, or it failed.  A failure leaves the
registry as well, unless the instance could not be shown after it was placed. -/
inductive Answered (s : Station) (now : Moment) (body : Except Json.Error Value) :
    Response → Station → Prop
  | created {data shown : Value} {w : Workflow} (hbody : body = .ok data)
      (hasks : Asks s.desk.registry.catalog data w)
      (hshown : (Instance.create s.desk.freshId w now).toValue.forWeb = .ok shown) :
      Answered s now body (.data 201 shown)
        { s with desk := s.desk.placed (.create s.desk.freshId w now) }
  | refused {response : Response} (hstatus : response.status = 400 ∨ response.status = 404)
      (hnone : ∀ data w, body = .ok data → ¬Asks s.desk.registry.catalog data w) :
      Answered s now body response s
  | failed {response : Response} {t : Station} (hstatus : response.status = 500)
      (hkept : t.desk.registry = s.desk.registry) : Answered s now body response t
  | unshown {response : Response} {data : Value} {w : Workflow} {fault : Fault}
      (hbody : body = .ok data) (hasks : Asks s.desk.registry.catalog data w)
      (hshown : (Instance.create s.desk.freshId w now).toValue.forWeb = .error fault)
      (hstatus : response.status = 500) :
      Answered s now body response { s with desk := s.desk.placed (.create s.desk.freshId w now) }

theorem sent_shown {response : Response} (h : response.forWeb = .ok response) :
    Response.sent (.ok response) = response := by
  simp [Response.sent, Bind.bind, Except.bind, h]

theorem sent_data {v shown : Value} {status : ℕ} (h : v.forWeb = .ok shown) :
    Response.sent (.ok (.data status v)) = .data status shown := by
  simp only [Response.sent, Bind.bind, Except.bind, Response.forWeb, Response.data, h]
  rfl

theorem sent_unshown {v : Value} {fault : Fault} (status : ℕ) (h : v.forWeb = .error fault) :
    (Response.sent (.ok (.data status v))).status = 500 := by
  obtain rfl := Value.fault_of_forWeb v h
  simp only [Response.sent, Bind.bind, Except.bind, Response.forWeb, Response.data, h]
  rfl

theorem gives_answer_workflows (hsends : request.Sends .workflows) (hbody : request.data = .ok data)
    (h : (activate clock data).Gives s outcome t) (address : Address) :
    (answer clock q request address .workflows).Gives s outcome t := by
  have hread : (body request).Gives s (.ok data) s := by
    rw [body, hbody]
    exact Attempt.gives_ofExcept _ s
  rw [answer, if_pos hsends.verb]
  exact hread.bind_ok h

theorem gives_answer_unread {error : Json.Error} (clock : Clock)
    (hsends : request.Sends .workflows) (hbody : request.data = .error error) (s : Station)
    (address : Address) :
    (answer clock q request address .workflows).Gives s (.error (.json error)) s := by
  have hfails : (body request).Gives s (.error (.json error)) s := by
    rw [body, hbody]
    exact Attempt.gives_ofExcept _ s
  rw [answer, if_pos hsends.verb]
  exact hfails.bind_error

/-- What becomes of an outcome on its way out. -/
theorem Outcome.answered (h : Outcome s now data outcome t) (hdata : Timeless data) :
    Answered s now (.ok data) (.sent outcome) t ∧
      ((Response.sent outcome).status = 500 ↔ Unforeseen s.desk now (.ok data)) := by
  cases h with
  | @created w hasks hcopies =>
      cases hshown : (Instance.create s.desk.freshId w now).toValue.forWeb with
      | ok shown =>
          rw [sent_data hshown]
          refine ⟨.created rfl hasks hshown, ⟨fun h => absurd h (by simp [Response.data]), ?_⟩⟩
          intro hunforeseen
          obtain ⟨fault, hfault⟩ := hasks.shown_of_unforeseen hcopies hunforeseen
          simp [hshown] at hfault
      | error fault =>
          have hstatus := sent_unshown 201 hshown
          refine ⟨.unshown rfl hasks hshown hstatus, ⟨fun _ => ?_, fun _ => hstatus⟩⟩
          cases hasks with
          | template hnamed hfound => exact .unshown hnamed hfound hshown
          | definition _ _ hread =>
              have htimeless := Instance.timeless_of_read (hdata.field "definition") hread
                (.create s.desk.freshId w now) rfl
              simp [htimeless.forWeb_eq] at hshown
  | refused hstatus hshown hnone hforeseen =>
      rw [sent_shown hshown]
      refine ⟨.refused hstatus ?_, ⟨fun h => ?_, fun h => absurd h hforeseen⟩⟩
      · intro other w hother
        obtain rfl := Except.ok.inj hother
        exact hnone w
      · omega
  | failed hunforeseen hstatus hkept =>
      exact ⟨.failed hstatus hkept, ⟨fun _ => hunforeseen, fun _ => hstatus⟩⟩

/-- A request to activate a workflow is always answered.  It fails if and only if its body is one
that the route does not foresee; otherwise the answer shows the new instance of what the body asks
for, or is a refusal. -/
theorem activation_answered (hsends : request.Sends .workflows) (hclock : clock.moment = .ok now)
    (q : Queue) (s : Station) :
    ∃ response t, (respond clock q request).Gives s (.ok response) t ∧
      Answered s now request.data response t ∧
      (response.status = 500 ↔ Unforeseen s.desk now request.data) := by
  cases hbody : request.data with
  | error error =>
      have hgives := gives_respond_of_sends (q := q) hsends
        (gives_answer_unread clock hsends hbody s)
      exact ⟨_, _, hgives, .failed rfl rfl, ⟨fun _ => .unread error, fun _ => rfl⟩⟩
  | ok data =>
      have hactivate : (activate clock data).Gives s _ _ := ⟨rfl, rfl⟩
      have hgives := gives_respond_of_sends (q := q) hsends
        (gives_answer_workflows hsends hbody hactivate)
      have houtcome := ends_activate hclock data s
      exact ⟨_, _, hgives, houtcome.answered (Request.timeless_data hbody)⟩

/-! ### A template, a list, and a list for an id -/

/-- Posts a body where workflows are activated. -/
def activating (body : String) : Request :=
  ⟨"POST", "/api/v1/workflows", "application/json", body, .other⟩

theorem sends_activating {body : String} (h : Text.unencodable? body.toList = none) :
    (activating body).Sends .workflows where
  post := rfl
  led := by
    have haddress : (Address.ofTarget "/api/v1/workflows").toOption
        = some ⟨"http", "localhost", "/api/v1/workflows", ""⟩ := by decide +kernel
    have hheader : ("application/json".toList.any fun c => c == '\n' || c == '\r') = false := by
      decide +kernel
    refine ⟨⟨"http", "localhost", "/api/v1/workflows", ""⟩, ?_, by decide +kernel⟩
    simp only [Request.address, activating, Attempt.toOption_eq_some_iff.mp haddress, hheader, h]
    rfl

theorem activation_answered_deadline :
    (activating "\x7b\"template_id\": \"prazo-7dias-alerta\"\x7d").Sends .workflows ∧
      ∃ now, Desk.firstClock.moment = .ok now ∧
        ∃ response t, (respond Desk.firstClock Queue.minuteQueue
            (activating "\x7b\"template_id\": \"prazo-7dias-alerta\"\x7d")).Gives
              (Station.hearingStation 60) (.ok response) t ∧
          Answered (Station.hearingStation 60) now
            (activating "\x7b\"template_id\": \"prazo-7dias-alerta\"\x7d").data response t ∧
          (response.status = 500 ↔ Unforeseen (Station.hearingStation 60).desk now
            (activating "\x7b\"template_id\": \"prazo-7dias-alerta\"\x7d").data) := by
  have hsends : (activating "\x7b\"template_id\": \"prazo-7dias-alerta\"\x7d").Sends .workflows :=
    sends_activating (by decide +kernel)
  obtain ⟨now, hclock⟩ := Desk.exists_moment_firstClock
  exact ⟨hsends, now, hclock, activation_answered hsends hclock _ _⟩

theorem fails_of_unforeseen {body : String} (hwhole : Text.unencodable? body.toList = none)
    (hclock : clock.moment = .ok now) (hbody : (activating body).data = .ok data)
    (h : Unforeseen s.desk now (.ok data)) :
    ∃ response t, (respond clock q (activating body)).Gives s (.ok response) t ∧
      response.status = 500 := by
  have hsends := sends_activating hwhole
  have hactivate : (activate clock data).Gives s _ _ := ⟨rfl, rfl⟩
  have hgives := gives_respond_of_sends (q := q) hsends
    (gives_answer_workflows hsends hbody hactivate)
  have houtcome := (ends_activate hclock data s).answered (Request.timeless_data hbody)
  exact ⟨_, _, hgives, houtcome.2.mpr h⟩

/-- A list for a body and a list for the id of a template are both answered with an error of the
service. -/
theorem list_fails :
    (∃ response t, (respond Desk.firstClock Queue.minuteQueue (activating "[1]")).Gives
        (Station.hearingStation 60) (.ok response) t ∧ response.status = 500) ∧
      ∃ response t, (respond Desk.firstClock Queue.minuteQueue
          (activating "\x7b\"template_id\": [1]\x7d")).Gives
        (Station.hearingStation 60) (.ok response) t ∧ response.status = 500 := by
  obtain ⟨now, hclock⟩ := Desk.exists_moment_firstClock
  constructor
  · have hlist : ((activating "[1]").data.toOption.any fun v =>
        v.isTruthy && v.entries?.isNone) = true := by decide +kernel
    obtain ⟨data, hbody, hdata⟩ := (Option.any_eq_true _ _).mp hlist
    simp only [Bool.and_eq_true, Option.isNone_iff_eq_none] at hdata
    exact fails_of_unforeseen (by decide +kernel) hclock
      (Attempt.toOption_eq_some_iff.mp hbody) (.noObject hdata.1 hdata.2)
  · have hlist : ((activating "\x7b\"template_id\": [1]\x7d").data.toOption.any fun v =>
        v.entries?.any fun entries => (entries.field "template_id").isTruthy &&
          !(entries.field "template_id").isKey) = true := by decide +kernel
    obtain ⟨data, hbody, hdata⟩ := (Option.any_eq_true _ _).mp hlist
    obtain ⟨entries, hentries, hfield⟩ := (Option.any_eq_true _ _).mp hdata
    obtain rfl := Value.eq_object_of_entries? hentries
    simp only [Bool.and_eq_true, Bool.not_eq_true'] at hfield
    exact fails_of_unforeseen (by decide +kernel) hclock
      (Attempt.toOption_eq_some_iff.mp hbody) (.noKey hfield.1 hfield.2)

end Service

end CaseWorkflow
