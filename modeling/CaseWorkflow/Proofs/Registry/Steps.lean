import CaseWorkflow.Proofs.Attempt
import CaseWorkflow.Proofs.Number.Digits
import CaseWorkflow.Registry.Desk

/-!
# What the operations of a registry do

An operation that fails leaves the registry as it was.  One that does not fail adds an instance
at the end, puts an instance in the place of the one with its id, or takes an instance away.
-/

namespace CaseWorkflow

namespace Desk

variable {desk t : Desk} {clock : Clock} {v : Value} {id : String} {i : Instance}

/-! ## Ids -/

theorem gives_drawId (desk : Desk) :
    drawId.Gives desk (.ok desk.freshId) { desk with issued := desk.issued + 1 } := by
  unfold drawId
  apply Attempt.Gives.bind_ok (Attempt.gives_get desk)
  apply Attempt.Gives.bind_ok (Attempt.gives_set desk _)
  exact Attempt.gives_pure _ _

/-- Ids that were given out, each of them once. -/
structure Given (desk : Desk) (ids : List String) : Prop where
  distinct : ids.Nodup
  issued : ∀ id ∈ ids, ∃ n ≤ desk.issued, id = s!"id-{n}"

namespace Given

variable {ids : List String}

theorem sublist {rest : List String} (h : desk.Given ids) (hids : rest.Sublist ids)
    (hissued : desk.issued ≤ t.issued) : t.Given rest := by
  refine ⟨hids.nodup h.distinct, fun id hid => ?_⟩
  obtain ⟨n, hn, heq⟩ := h.issued id (hids.mem hid)
  exact ⟨n, hn.trans hissued, heq⟩

/-- The id that is drawn next has not been given out. -/
theorem freshId_not_mem (h : desk.Given ids) : desk.freshId ∉ ids := by
  intro hmem
  obtain ⟨n, hn, heq⟩ := h.issued _ hmem
  have hnumber : desk.issued + 1 = n := append_repr_injective heq
  omega

theorem concat (h : desk.Given ids) (hissued : t.issued = desk.issued + 1) :
    t.Given (ids ++ [desk.freshId]) := by
  constructor
  · rw [← List.concat_eq_append]
    exact h.distinct.concat h.freshId_not_mem
  · intro id hid
    rw [hissued]
    rcases List.mem_append.mp hid with hold | hnew
    · obtain ⟨n, hn, heq⟩ := h.issued id hold
      exact ⟨n, Nat.le_succ_of_le hn, heq⟩
    · exact ⟨desk.issued + 1, le_rfl, List.mem_singleton.mp hnew⟩

end Given

/-! ## Instances -/

theorem gives_copied {workflow : Workflow} (h : workflow.isCopyable = true) (desk : Desk) :
    (copied workflow).Gives desk (.ok workflow) desk := by
  rw [copied, if_pos h]
  exact Attempt.gives_pure workflow desk

theorem gives_copied_of_not {workflow : Workflow} (h : workflow.isCopyable = false) (desk : Desk) :
    (copied workflow).Gives desk (.error (.json (.tooDeep none))) desk := by
  rw [copied, h]
  exact Attempt.gives_fail _ desk

theorem ends_activate (clock : Clock) (d : Definition) :
    (activate clock d).Ends desk fun result t =>
      match result with
      | .error _ => t.registry = desk.registry ∧ desk.issued ≤ t.issued
      | .ok i => ∃ workflow now, workflow.definition = d ∧
          i = .create desk.freshId workflow now ∧ t.registry = desk.registry.append i ∧
          t.issued = desk.issued + 1 := by
  unfold activate
  cases hworkflow : Workflow.ofDefinition d with
  | error invalid => exact (Attempt.gives_fail _ desk).ends ⟨rfl, le_rfl⟩
  | ok workflow =>
      have hdefinition : workflow.definition = d := by
        unfold Workflow.ofDefinition at hworkflow
        split at hworkflow
        next =>
          obtain rfl := Except.ok.inj hworkflow
          rfl
        next => cases hworkflow
      apply Attempt.Ends.bind_ok (gives_drawId desk)
      cases hcopies : workflow.isCopyable with
      | false =>
          exact Attempt.Ends.bind_error (gives_copied_of_not hcopies _) ⟨rfl, Nat.le_succ _⟩
      | true =>
          apply Attempt.Ends.bind_ok (gives_copied hcopies _)
          unfold moment
          cases clock.moment with
          | error flaw =>
              exact Attempt.Ends.bind_error (Attempt.gives_ofExcept _ _) ⟨rfl, Nat.le_succ _⟩
          | ok now =>
              apply Attempt.Ends.bind_ok (Attempt.gives_ofExcept _ _)
              apply Attempt.Ends.bind_ok (Attempt.gives_modify _ _)
              apply Attempt.Ends.bind_ok (Attempt.gives_note _ _ _ _)
              exact (Attempt.gives_pure _ _).ends ⟨workflow, now, hdefinition, rfl, rfl, rfl⟩

theorem ends_activateTemplate (clock : Clock) (v : Value) :
    (activateTemplate clock v).Ends desk fun result t =>
      match result with
      | .error _ => t.registry = desk.registry ∧ desk.issued ≤ t.issued
      | .ok i => ∃ template, desk.registry.catalog.get v = .ok template ∧
          ∃ workflow now, workflow.definition = template.definition ∧
            i = .create desk.freshId workflow now ∧ t.registry = desk.registry.append i ∧
            t.issued = desk.issued + 1 := by
  unfold activateTemplate
  apply Attempt.Ends.bind_ok (Attempt.gives_get desk)
  cases htemplate : desk.registry.catalog.get v with
  | error fault =>
      exact Attempt.Ends.bind_error (Attempt.gives_ofExcept _ desk) ⟨rfl, le_rfl⟩
  | ok template =>
      apply Attempt.Ends.bind_ok (Attempt.gives_ofExcept _ desk)
      apply (ends_activate clock template.definition).mono
      rintro (fault | i) t ht
      · exact ht
      · exact ⟨template, rfl, ht⟩

theorem get_eq_ok (h : desk.registry.get v = .ok i) :
    v.text? = some i.id ∧ i ∈ desk.registry.instances := by
  unfold Registry.get at h
  split at h
  next found hfound =>
    obtain rfl := Except.ok.inj h
    obtain ⟨id, htext, hfind⟩ := Option.bind_eq_some_iff.mp hfound
    have hid := List.find?_some (p := fun j : Instance => j.id == id) hfind
    rw [htext, beq_iff_eq.mp hid]
    exact ⟨rfl, List.mem_of_find?_eq_some hfind⟩
  next => cases h

/-- A text by which nothing is stored is not found. -/
theorem get_eq_error (htext : v.text? = some id)
    (hid : id ∉ desk.registry.instances.map Instance.id) :
    desk.registry.get v = .error (.instanceMissing v) := by
  have hnone : desk.registry.find? id = none := by
    apply List.find?_eq_none.mpr
    intro i hi hsame
    exact hid (List.mem_map.mpr ⟨i, hi, beq_iff_eq.mp hsame⟩)
  have hkey : v.isKey = true := by
    cases v with
    | list | object => cases htext
    | _ => rfl
  rw [Registry.get, htext, Option.bind_some, hnone, hkey]
  rfl

theorem ends_toggle (v : Value) :
    (toggle v).Ends desk fun result t =>
      match result with
      | .error _ => t = desk
      | .ok _ => ∃ i ∈ desk.registry.instances, v.text? = some i.id ∧
          ∃ status, i.status.toggled = .ok status ∧
            t = desk.withRegistry (desk.registry.replace { i with status }) := by
  unfold toggle
  apply Attempt.Ends.bind_ok (Attempt.gives_get desk)
  cases hget : desk.registry.get v with
  | error fault => exact Attempt.Ends.bind_error (Attempt.gives_ofExcept _ desk) rfl
  | ok i =>
      obtain ⟨htext, hmem⟩ := get_eq_ok hget
      apply Attempt.Ends.bind_ok (Attempt.gives_ofExcept _ desk)
      cases hstatus : i.status.toggled with
      | error step => exact Attempt.Ends.bind_error (Attempt.gives_ofExcept _ desk) rfl
      | ok status =>
          apply Attempt.Ends.bind_ok (Attempt.gives_ofExcept _ desk)
          apply Attempt.Ends.bind_ok (Attempt.gives_modify _ desk)
          apply Attempt.Ends.bind_ok (Attempt.gives_note _ _ _ _)
          exact (Attempt.gives_pure _ _).ends ⟨i, hmem, htext, status, hstatus, rfl⟩

theorem ends_remove (v : Value) :
    (remove v).Ends desk fun result t =>
      match result with
      | .error _ => t = desk
      | .ok _ => ∃ i ∈ desk.registry.instances, v.text? = some i.id ∧
          t = desk.withRegistry (desk.registry.erase i.id) := by
  unfold remove
  apply Attempt.Ends.bind_ok (Attempt.gives_get desk)
  cases hget : desk.registry.get v with
  | error fault => exact Attempt.Ends.bind_error (Attempt.gives_ofExcept _ desk) rfl
  | ok i =>
      obtain ⟨htext, hmem⟩ := get_eq_ok hget
      apply Attempt.Ends.bind_ok (Attempt.gives_ofExcept _ desk)
      cases i.status.step .removed with
      | error step => exact Attempt.Ends.bind_error (Attempt.gives_ofExcept _ desk) rfl
      | ok status =>
          apply Attempt.Ends.bind_ok (Attempt.gives_ofExcept _ desk)
          apply Attempt.Ends.bind_ok (Attempt.gives_set desk _)
          exact (Attempt.gives_note _ _ _ _).ends ⟨i, hmem, htext, rfl⟩

/-- What is not stored can neither be shown nor toggled nor removed. -/
theorem missing_fails (htext : v.text? = some id)
    (hid : id ∉ desk.registry.instances.map Instance.id) :
    (Desk.get v).Gives desk (.error (.instanceMissing v)) desk ∧
      (toggle v).Gives desk (.error (.instanceMissing v)) desk ∧
      (remove v).Gives desk (.error (.instanceMissing v)) desk := by
  have hget := get_eq_error htext hid
  have hfails : (Attempt.ofExcept (σ := Desk) (desk.registry.get v)).Gives desk
      (.error (.instanceMissing v)) desk := ⟨hget, rfl⟩
  exact ⟨(Attempt.gives_get desk).bind_ok hfails,
    (Attempt.gives_get desk).bind_ok hfails.bind_error,
    (Attempt.gives_get desk).bind_ok hfails.bind_error⟩

/-! ## Events -/

/-- The desk after an id was drawn, if the event brings none. -/
def numbered (desk : Desk) (draft : Event.Draft) : Desk :=
  if draft.id.isSome then desk else { desk with issued := desk.issued + 1 }

/-- The time that an event brings, or else the time of the clock. -/
def stamp (clock : Clock) (draft : Event.Draft) : Except Fault Moment :=
  match draft.occurredAt with
  | some moment => .ok moment
  | none => clock.moment.mapError .clock

/-- By a clock that shows a moment, every event has a time. -/
theorem exists_stamp {clock : Clock} {now : Moment} (hclock : clock.moment = .ok now)
    (draft : Event.Draft) : ∃ moment, stamp clock draft = .ok moment := by
  unfold stamp
  cases draft.occurredAt with
  | some moment => exact ⟨moment, rfl⟩
  | none =>
      rw [hclock]
      exact ⟨now, rfl⟩

theorem gives_readEvent {v : Value} {draft : Event.Draft} (h : Event.Draft.read v = .ok draft)
    (clock : Clock) (desk : Desk) :
    (readEvent clock v).Gives desk
      ((stamp clock draft).map (draft.complete (draft.id.getD desk.freshId)))
      (desk.numbered draft) := by
  have hclocked : ∀ (id : String) (t : Desk),
      (moment clock >>= fun now => pure (draft.complete id now)).Gives t
        ((clock.moment.mapError .clock).map (draft.complete id)) t := by
    intro id t
    unfold moment
    cases clock.moment.mapError Fault.clock with
    | error fault => exact Attempt.gives_fail fault t
    | ok now => exact Attempt.gives_pure _ t
  unfold readEvent numbered stamp
  rw [h]
  dsimp only
  cases draft.id with
  | some id =>
      apply Attempt.Gives.bind_ok (Attempt.gives_pure id desk)
      cases draft.occurredAt with
      | some moment => exact Attempt.gives_pure _ desk
      | none => exact hclocked id desk
  | none =>
      apply Attempt.Gives.bind_ok (gives_drawId desk)
      cases draft.occurredAt with
      | some moment => exact Attempt.gives_pure _ _
      | none => exact hclocked desk.freshId _

end Desk

end CaseWorkflow
