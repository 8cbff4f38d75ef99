import CaseWorkflow.Proofs.Definition.Rules
import CaseWorkflow.Proofs.Dispatch.Timeout
import CaseWorkflow.Proofs.Template.Obstacles

/-!
# Actions that are only noted

The handlers that note actions in the journal are there for every known kind.  An action of a
validated workflow succeeds with them if its data can be copied, its time can be counted, and each
of its texts can be rendered; else it fails with the class of the failure and its text.
-/

namespace CaseWorkflow

/-! ## Rendering parameters -/

def Entries.texts (parameters : Entries) : List String :=
  parameters.filterMap fun entry => entry.2.text?

namespace Handler

variable {parameters : Entries} {event : Event}

/-- Parameters are rendered if each of their texts is, and else fail as one of these fails. -/
theorem renderParameters_cases (parameters : Entries) (event : Event) :
    (∃ rendered, renderParameters parameters event = .ok rendered ∧
        ∀ s ∈ parameters.texts, ∃ t, Template.render s event.data = .ok t) ∨
      ∃ obstacle, renderParameters parameters event = .error obstacle ∧
        ∃ s ∈ parameters.texts, Template.render s event.data = .error obstacle := by
  unfold renderParameters Entries.texts
  rcases mapM_cases _ parameters with ⟨rendered, hok, hall⟩ | ⟨obstacle, herror, hone⟩
  · refine .inl ⟨rendered, hok, ?_⟩
    intro s hs
    obtain ⟨⟨key, value⟩, hentry, htext⟩ := List.mem_filterMap.mp hs
    obtain ⟨b, hb⟩ := hall (key, value) hentry
    simp only [htext] at hb
    cases hrender : Template.render s event.data with
    | ok t => exact ⟨t, rfl⟩
    | error obstacle =>
        rw [hrender] at hb
        cases hb
  · refine .inr ⟨obstacle, herror, ?_⟩
    obtain ⟨⟨key, value⟩, hentry, hfails⟩ := hone
    cases htext : value.text? with
    | none =>
        simp only [htext] at hfails
        cases hfails
    | some s =>
        refine ⟨s, List.mem_filterMap.mpr ⟨(key, value), hentry, htext⟩, ?_⟩
        simp only [htext] at hfails
        cases hrender : Template.render s event.data with
        | ok t =>
            rw [hrender] at hfails
            cases hfails
        | error other =>
            rw [hrender] at hfails
            cases hfails
            rfl

def renderingKinds : List String := ["TypeError", "OverflowError", "MemoryError"]

theorem exists_replyOf {obstacle : Template.Obstacle} (h : obstacle ≠ .malformed) :
    ∃ error ∈ renderingKinds, ∃ text, replyOf obstacle = .raised error text := by
  cases obstacle with
  | malformed => exact absurd rfl h
  | wrongKind message => exact ⟨"TypeError", by decide, message, rfl⟩
  | tooLarge message => exact ⟨"OverflowError", by decide, message, rfl⟩
  | tooWide => exact ⟨"MemoryError", by decide, "", rfl⟩

end Handler

/-! ## The handlers -/

/-- The handler that notes the actions of a kind. -/
def Handler.noting (kind : ActionKind) : Handler :=
  ⟨Vocabulary.value kind, .logging (.level .info)⟩

/-- A handler that notes actions is done, if it can render their parameters, and else replies with
the failure. -/
theorem Handler.execute_noting_cases (kind : ActionKind) (parameters : Value) (event : Event)
    (calls : List Call) :
    (((noting kind).execute parameters event).Gives calls (.ok .done) calls ∧
        ∀ s ∈ (parameters.entries?.getD []).texts, ∃ t, Template.render s event.data = .ok t) ∨
      ∃ error ∈ renderingKinds, ∃ text,
        ((noting kind).execute parameters event).Gives calls (.ok (.raised error text)) calls ∧
          ∃ s ∈ (parameters.entries?.getD []).texts, ∀ t, Template.render s event.data ≠ .ok t := by
  dsimp only [execute, noting]
  rcases renderParameters_cases (parameters.entries?.getD []) event with
    ⟨rendered, hok, htexts⟩ | ⟨obstacle, herror, s, hs, hrender⟩
  · rw [hok]
    exact .inl ⟨⟨rfl, rfl⟩, htexts⟩
  · rw [herror]
    obtain ⟨error, hmem, text, hreply⟩ :=
      exists_replyOf (Template.render_error_ne_malformed hrender)
    refine .inr ⟨error, hmem, text, ⟨congrArg Except.ok hreply, rfl⟩, s, hs, ?_⟩
    intro t ht
    rw [hrender] at ht
    cases ht

/-- What actions run with where nothing is called. -/
def Dispatcher.noting (usual : Value) : Dispatcher :=
  ⟨(Handlers.registerLogging.run .empty).state, usual, false⟩

theorem Handlers.table_registerLogging :
    (registerLogging.run .empty).state.table
      = (Vocabulary.members (α := ActionKind)).map fun kind =>
          (Vocabulary.value kind, Handler.noting kind) := by
  rfl

theorem Value.same_of_text? {v : Value} {s : String} (h : v.text? = some s) (word : String) :
    (Value.text word).same v = (word == s) := by
  cases v <;> simp_all [same, text?, number?]

theorem Value.isKey_of_text? {v : Value} {s : String} (h : v.text? = some s) :
    v.isKey = true := by
  cases v <;> simp_all [isKey, text?]

theorem Dispatcher.handler?_noting {a : Action} {kind : ActionKind}
    (h : a.knownKind? = some kind) (usual : Value) :
    a.kind.isKey = true ∧ (noting usual).handler? a = some (.noting kind) := by
  obtain ⟨s, htext, hfind⟩ := Option.bind_eq_some_iff.mp h
  have hkey := Value.isKey_of_text? htext
  refine ⟨hkey, ?_⟩
  have hsame : (fun entry : Value × Handler => entry.1.same a.kind) ∘
      (fun kind : ActionKind => (Vocabulary.value kind, Handler.noting kind))
        = fun kind => Vocabulary.wire kind == s := by
    funext kind
    exact Value.same_of_text? htext (Vocabulary.wire kind)
  unfold handler? Handlers.find?
  rw [if_pos hkey]
  change ((((Handlers.registerLogging.run .empty).state.table.find? _).map Prod.snd)) = _
  rw [Handlers.table_registerLogging, List.find?_map, hsame, hfind]
  rfl

/-! ## Time -/

/-- The time of an action in order is not over from the start. -/
theorem Action.InOrder.exists_budget {a : Action} (h : a.InOrder) {usual : Value}
    (husual : usual.IsPositive) :
    ∃ seconds, (a.budget usual).number? = some seconds ∧ seconds.le (.int 0) = false := by
  have hdefault := husual.exists_number
  unfold budget Value.orElse
  rcases h.timeout with hnull | ⟨seconds, hproper, hspan⟩
  · rw [hnull]
    exact hdefault
  · by_cases htruthy : a.timeout.isTruthy = true
    · rw [if_pos htruthy]
      have hnumber : a.timeout.number? = some seconds := by
        cases htimeout : a.timeout <;> simp_all [Value.properNumber?, Value.number?]
      have hle : seconds.le (.int 0) = false := by
        rw [← Bool.not_eq_true, Number.le_zero_iff]
        exact hspan
      exact ⟨seconds, hnumber, hle⟩
    · rw [if_neg htruthy]
      exact hdefault

/-! ## One action -/

def Action.texts (a : Action) : List String := (a.parameters.entries?.getD []).texts

/-- Whether everything that noting an action takes can be had. -/
structure Action.CanBeNoted (a : Action) (usual : Value) (event : Event) : Prop where
  copied : a.isCopyable event = true
  timed : (a.budget usual).FitsClock
  rendered : ∀ s ∈ a.texts, ∃ t, Template.render s event.data = .ok t

theorem Action.canBeNoted_of_undemanding {a : Action} {usual : Value} {event : Event}
    (hcopy : a.isCopyable event = true) (hfits : (a.budget usual).FitsClock)
    (htexts : ∀ s ∈ a.texts, Template.Undemanding s) : a.CanBeNoted usual event :=
  ⟨hcopy, hfits, fun s hs => Template.exists_render_of_undemanding (htexts s hs) event.data⟩

namespace ActionResult

def notingKinds : List String := "RecursionError" :: Handler.renderingKinds

/-- How an action is reported that is noted. -/
structure Noted (usual : Value) (event : Event) (a : Action) (result : ActionResult) : Prop where
  kind : result.kind = a.kind
  success : result.success = true ↔ a.CanBeNoted usual event
  undemanding : a.isCopyable event = true → (a.budget usual).FitsClock →
    (∀ s ∈ a.texts, Template.Undemanding s) → result.success = true
  failure : result.success = false →
    ∃ error ∈ notingKinds, ∃ text : String, result.verdict = .failed s!"{error}: {text}"

variable {a : Action} {usual : Value} {event : Event}

theorem noted_succeeded (h : a.CanBeNoted usual event) :
    Noted usual event a ⟨a.kind, .succeeded⟩ :=
  ⟨rfl, iff_of_true rfl h, fun _ _ _ => rfl, nofun⟩

theorem noted_failed (h : ¬a.CanBeNoted usual event) {error : String}
    (herror : error ∈ notingKinds) (text : String) :
    Noted usual event a ⟨a.kind, .failed s!"{error}: {text}"⟩ where
  kind := rfl
  success := iff_of_false Bool.false_ne_true h
  undemanding hcopy hfits htexts :=
    absurd (Action.canBeNoted_of_undemanding hcopy hfits htexts) h
  failure _ := ⟨error, herror, text, rfl⟩

end ActionResult

/-- Once it is started, the handler's reply decides. -/
theorem Handler.exists_noted_reply (kind : ActionKind) {a : Action} {usual : Value} {event : Event}
    (hcopy : a.isCopyable event = true) (hfits : (a.budget usual).FitsClock)
    (calls : List Call) :
    ∃ reply, ((noting kind).execute a.parameters event).Gives calls (.ok reply) calls ∧
      ActionResult.Noted usual event a ⟨a.kind, .ofReply (a.budget usual) reply⟩ := by
  rcases execute_noting_cases kind a.parameters event calls with
    ⟨hdone, htexts⟩ | ⟨error, herror, text, hraised, s, hs, hrender⟩
  · exact ⟨.done, hdone, ActionResult.noted_succeeded ⟨hcopy, hfits, htexts⟩⟩
  · have hcannot : ¬a.CanBeNoted usual event := by
      intro hcan
      obtain ⟨t, ht⟩ := hcan.rendered s hs
      exact hrender t ht
    have hclass : error ≠ "TimeoutError" := by
      intro heq
      rw [heq] at herror
      exact absurd herror (by decide)
    have hverdict : Verdict.ofReply (a.budget usual) (.raised error text)
        = .failed s!"{error}: {text}" := if_neg hclass
    refine ⟨.raised error text, hraised, ?_⟩
    rw [hverdict]
    exact ActionResult.noted_failed hcannot (List.mem_cons_of_mem _ herror) text

namespace Dispatcher

variable {a : Action} {usual : Value}

/-- An action of a known kind that is in order is noted, and nothing is called. -/
theorem exists_noted (h : a.InOrder) {kind : ActionKind} (hknown : a.knownKind? = some kind)
    (husual : usual.IsPositive) (event : Event) (calls : List Call) :
    ∃ verdict, ((noting usual).execute a event).Gives calls (.ok verdict) calls ∧
      ActionResult.Noted usual event a ⟨a.kind, verdict⟩ := by
  obtain ⟨hkey, hhandler⟩ := handler?_noting hknown usual
  rw [execute_eq rfl hkey, hhandler]
  dsimp only
  -- the copies are made before the time is looked at, and the texts are rendered last
  by_cases hcopy : a.isCopyable event = true
  · obtain ⟨seconds, hnumber, hspan⟩ := h.exists_budget husual
    have hstart : a.start event (noting usual).timeout = Start.of (a.budget usual) := if_pos hcopy
    rw [hstart]
    rcases Start.of_cases hnumber hspan with ⟨hfits, hbegins⟩ | ⟨hwide, hrefused⟩
    · obtain ⟨reply, hreply, hnoted⟩ := Handler.exists_noted_reply kind hcopy hfits calls
      rw [hbegins]
      exact ⟨_, hreply.bind_ok (Attempt.gives_pure _ calls), hnoted⟩
    · have hcannot : ¬a.CanBeNoted usual event := fun hcan => hwide hcan.timed
      have hclass : "OverflowError" ∈ ActionResult.notingKinds := by decide
      rw [hrefused]
      exact ⟨_, ⟨rfl, rfl⟩,
        ActionResult.noted_failed hcannot hclass "int too large to convert to float"⟩
  · have hstart : a.start event (noting usual).timeout
        = .refused
          "RecursionError: maximum recursion depth exceeded while calling a Python object" :=
      if_neg hcopy
    have hcannot : ¬a.CanBeNoted usual event := fun hcan => hcopy hcan.copied
    have hclass : "RecursionError" ∈ ActionResult.notingKinds := by decide
    rw [hstart]
    exact ⟨_, ⟨rfl, rfl⟩, ActionResult.noted_failed hcannot hclass
      "maximum recursion depth exceeded while calling a Python object"⟩

/-! ## The chain -/

theorem exists_dispatchFrom_noting {actions : List Action} (horder : ∀ a ∈ actions, a.InOrder)
    (hknown : ∀ a ∈ actions, a.knownKind?.isSome = true) (husual : usual.IsPositive)
    (event : Event) (position : ℕ) (calls : List Call) :
    ∃ results,
      ((noting usual).dispatchFrom event position actions).Gives calls (.ok results) calls ∧
      List.Forall₂ (ActionResult.Noted usual event) actions results := by
  induction actions generalizing position with
  | nil => exact ⟨[], Attempt.gives_pure [] calls, .nil⟩
  | cons a rest ih =>
      obtain ⟨ha, hrest⟩ := List.forall_mem_cons.mp horder
      obtain ⟨hkind, hkinds⟩ := List.forall_mem_cons.mp hknown
      obtain ⟨kind, hkind⟩ := Option.isSome_iff_exists.mp hkind
      obtain ⟨verdict, hexecute, hnoted⟩ := exists_noted ha hkind husual event calls
      obtain ⟨results, hresults, hall⟩ := ih hrest hkinds (position + 1)
      exact ⟨⟨a.kind, verdict⟩ :: results, gives_dispatchFrom_cons hexecute hresults,
        .cons hnoted hall⟩

/-- The actions of a validated workflow, all of known kinds, come to their results where they are
only noted, and nothing is called.  Each succeeds if and only if its data can be copied, its time
can be counted and its texts can be rendered, as texts without indices and formats always can. -/
theorem noting_succeeds_iff (w : Workflow) (hknown : ∀ a ∈ w.actions, a.knownKind?.isSome = true)
    (husual : usual.IsPositive) (event : Event) (calls : List Call) :
    ∃ results, ((noting usual).dispatch w.actions event).Gives calls (.ok results) calls ∧
      List.Forall₂ (ActionResult.Noted usual event) w.actions results :=
  exists_dispatchFrom_noting (Definition.sound_iff.mp w.sound).actions hknown husual event 0 calls

section Comments

/-- What is noted on a hearing: a comment with this text. -/
def commenting (text : String) : Definition :=
  ⟨.text "ata", .text "Ata", .text "", some ⟨.known .hearingApproaching, []⟩,
    [⟨.text "criar_comentario", .object [("texto", .text text)], .int 5⟩]⟩

theorem noting_succeeds_iff_comment :
    ∃ w : Workflow, w.definition = commenting "Nota: \x7bnote\x7d \x7bsala\x7d" ∧
      (∀ a ∈ w.actions, a.knownKind?.isSome = true) ∧ Value.IsPositive (.int 30) ∧
      ∃ results, ((noting (.int 30)).dispatch w.actions Message.hearingEvent).Gives [] (.ok results)
          [] ∧
        results.map ActionResult.success = [true] := by
  let w : Workflow := ⟨commenting "Nota: \x7bnote\x7d \x7bsala\x7d", by decide +kernel⟩
  have hknown : ∀ a ∈ w.actions, a.knownKind?.isSome = true := by decide +kernel
  have hpositive : Value.IsPositive (.int 30) := by decide
  obtain ⟨results, hresults, hall⟩ :=
    noting_succeeds_iff w hknown hpositive Message.hearingEvent []
  refine ⟨w, rfl, hknown, hpositive, results, hresults, ?_⟩
  obtain _ | ⟨hcomment, hrest⟩ := hall
  cases hrest
  have hfits : Value.FitsClock (.int 5) := by
    intro i hi
    cases hi
    decide +kernel
  have htext : Template.Undemanding "Nota: \x7bnote\x7d \x7bsala\x7d" := by decide +kernel
  have hsuccess := hcomment.undemanding (by decide +kernel) hfits
    (List.forall_mem_singleton.mpr htext)
  rw [List.map_singleton, hsuccess]

/-- A list has no format to stand to the right, so that its comment is not noted. -/
theorem comment_on_list_fails :
    ∃ w : Workflow, w.definition = commenting "Partes: \x7bparts:>10\x7d" ∧
      (∀ a ∈ w.actions, a.knownKind?.isSome = true) ∧ Value.IsPositive (.int 30) ∧
      ((noting (.int 30)).dispatch w.actions Message.hearingEvent).Gives []
        (.ok [⟨.text "criar_comentario",
          .failed "TypeError: unsupported format string passed to list.__format__"⟩]) [] := by
  refine ⟨⟨commenting "Partes: \x7bparts:>10\x7d", by decide +kernel⟩, rfl, by decide +kernel,
    by decide, ?_⟩
  exact ⟨rfl, rfl⟩

end Comments

end Dispatcher

end CaseWorkflow
