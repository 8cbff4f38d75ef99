import CaseWorkflow.Proofs.Registry.Isolation

/-!
# What a registry offers

A registry offers templates if its catalog lists them in order, and each id activates the
template that has it and nothing else.  A registry offers the templates of the catalog that it
is given, unless there are none: it then offers the standard ones.
-/

namespace CaseWorkflow

theorem Workflow.ofDefinition_definition (w : Workflow) : ofDefinition w.definition = .ok w :=
  dif_pos w.sound

namespace Catalog

variable {c : Catalog} {w : Workflow} {id : String}

theorem add_eq_ok {extended : Catalog} (h : extended.templates = c.templates ++ [w]) :
    c.add w = .ok extended := by
  have hnew : w.idText ∉ c.templates.map Workflow.idText := by
    have hdistinct := extended.distinct
    rw [h, List.map_append, List.nodup_append] at hdistinct
    intro hold
    exact hdistinct.2.2 _ hold _ (by simp) rfl
  obtain ⟨templates, hdistinct⟩ := extended
  subst h
  exact dif_neg hnew

theorem ofDefinitions_concat (definitions : List Definition) (w : Workflow) :
    ofDefinitions (definitions ++ [w.definition]) =
      ofDefinitions definitions >>= fun c => c.add w := by
  simp [ofDefinitions, List.foldlM_append, Workflow.ofDefinition_definition]

/-- Valid templates whose ids are distinct make a catalog, which lists them as they come. -/
theorem ofDefinitions_definitions (templates : List Workflow)
    (hdistinct : (templates.map Workflow.idText).Nodup) :
    ofDefinitions (templates.map Workflow.definition) = .ok ⟨templates, hdistinct⟩ := by
  induction templates using List.reverseRecOn with
  | nil => rfl
  | append_singleton templates w ih =>
      have hbefore : (templates.map Workflow.idText).Nodup := by
        rw [List.map_append] at hdistinct
        exact hdistinct.of_append_left
      rw [List.map_append, List.map_singleton, ofDefinitions_concat, ih hbefore]
      exact add_eq_ok rfl

theorem get_idText (h : w ∈ c.templates) : c.get (.text w.idText) = .ok w := by
  have hfind : c.templates.find? (fun other => other.idText == w.idText) = some w := by
    cases hfound : c.templates.find? (fun other => other.idText == w.idText) with
    | none => simpa using List.find?_eq_none.mp hfound w h
    | some other =>
        have hmem := List.mem_of_find?_eq_some hfound
        have hid : other.idText = w.idText := by simpa using List.find?_some hfound
        rw [List.inj_on_of_nodup_map c.distinct hmem h hid]
  simp only [get, find?, Value.text?, hfind]
  rfl

theorem get_of_not_mem (h : id ∉ c.templates.map Workflow.idText) :
    c.get (.text id) = .error (.templateMissing (.text id)) := by
  have hfind : c.templates.find? (fun other => other.idText == id) = none := by
    rw [List.find?_eq_none]
    intro other hmem hid
    exact h (List.mem_map.mpr ⟨other, hmem, by simpa using hid⟩)
  simp only [get, find?, Value.text?, hfind]
  rfl

theorem standard_templates_ne_nil : standard.templates ≠ [] := by
  have hsize : standard.size = standardDefinitions.length := by decide +kernel
  intro hnone
  simp [size, hnone, standardDefinitions] at hsize

end Catalog

namespace Desk

variable {desk : Desk} {clock : Clock} {now : Moment} {w : Workflow} {id : String}

/-- The desk with an instance at the end, placed under the id that was drawn for it. -/
def placed (desk : Desk) (i : Instance) : Desk :=
  ⟨desk.registry.append i, desk.issued + 1, desk.calls⟩

theorem gives_activate (hcopies : w.isCopyable = true) (hclock : clock.moment = .ok now)
    (desk : Desk) :
    (activate clock w.definition).Gives desk (.ok (.create desk.freshId w now))
      (desk.placed (.create desk.freshId w now)) := by
  unfold activate
  rw [Workflow.ofDefinition_definition]
  apply (gives_drawId desk).bind_ok
  apply (gives_copied hcopies _).bind_ok
  apply (gives_moment hclock _).bind_ok
  apply (Attempt.gives_modify _ _).bind_ok
  apply (Attempt.gives_note _ _ _ _).bind_ok
  exact Attempt.gives_pure _ _

/-- What nests too deep to be copied is not activated, but the id drawn for it is gone. -/
theorem gives_activate_of_not_copyable (hcopies : w.isCopyable = false) (clock : Clock)
    (desk : Desk) :
    (activate clock w.definition).Gives desk (.error (.json (.tooDeep none)))
      { desk with issued := desk.issued + 1 } := by
  unfold activate
  rw [Workflow.ofDefinition_definition]
  apply (gives_drawId desk).bind_ok
  exact (gives_copied_of_not hcopies _).bind_error

/-- A template of the catalog is activated as the definition that it is. -/
theorem gives_activateTemplate {v : Value} {result : Except Fault Instance} {t : Desk}
    (h : desk.registry.catalog.get v = .ok w)
    (hactivate : (activate clock w.definition).Gives desk result t) :
    (activateTemplate clock v).Gives desk result t := by
  unfold activateTemplate
  apply (Attempt.gives_get desk).bind_ok
  rw [h]
  exact (Attempt.gives_ofExcept _ desk).bind_ok hactivate

theorem gives_activateTemplate_error {v : Value} {fault : Fault}
    (h : desk.registry.catalog.get v = .error fault) (clock : Clock) :
    (activateTemplate clock v).Gives desk (.error fault) desk := by
  unfold activateTemplate
  apply (Attempt.gives_get desk).bind_ok
  rw [h]
  exact (Attempt.gives_ofExcept _ desk).bind_error

end Desk

namespace Registry

/-- The catalog lists the templates, and while the registry has this catalog the id of each of
them activates it, unless it nests too deep to be copied; no other id is known. -/
structure Offers (r : Registry) (templates : List Workflow) : Prop where
  lists : r.catalog.templates = templates
  activates : ∀ w ∈ templates, w.isCopyable = true → ∀ (desk : Desk) (clock : Clock) (now : Moment),
    desk.registry.catalog = r.catalog → clock.moment = .ok now →
      (Desk.activateTemplate clock (.text w.idText)).Gives desk
        (.ok (.create desk.freshId w now)) (desk.placed (.create desk.freshId w now))
  tooDeep : ∀ w ∈ templates, w.isCopyable = false → ∀ (desk : Desk) (clock : Clock),
    desk.registry.catalog = r.catalog →
      (Desk.activateTemplate clock (.text w.idText)).Gives desk
        (.error (.json (.tooDeep none))) { desk with issued := desk.issued + 1 }
  refuses : ∀ id ∉ templates.map Workflow.idText, ∀ (desk : Desk) (clock : Clock),
    desk.registry.catalog = r.catalog →
      (Desk.activateTemplate clock (.text id)).Gives desk
        (.error (.templateMissing (.text id))) desk

theorem offers_catalog (r : Registry) : r.Offers r.catalog.templates where
  lists := rfl
  activates := by
    intro w hmem hcopies desk clock now hcatalog hclock
    rw [← hcatalog] at hmem
    exact Desk.gives_activateTemplate (Catalog.get_idText hmem)
      (Desk.gives_activate hcopies hclock desk)
  tooDeep := by
    intro w hmem hcopies desk clock hcatalog
    rw [← hcatalog] at hmem
    exact Desk.gives_activateTemplate (Catalog.get_idText hmem)
      (Desk.gives_activate_of_not_copyable hcopies clock desk)
  refuses := by
    intro id hid desk clock hcatalog
    rw [← hcatalog] at hid
    exact Desk.gives_activateTemplate_error (Catalog.get_of_not_mem hid) clock

variable {handlers : Handlers} {timeout : Value}

theorem start_catalog_of_ne_nil {c : Catalog} (h : c.templates ≠ []) :
    (start handlers timeout (some c)).catalog = c := by
  have hsize : c.size ≠ 0 := by simpa [Catalog.size] using h
  simp [start, hsize]

theorem start_catalog_of_nil {c : Catalog} (h : c.templates = []) :
    (start handlers timeout (some c)).catalog = Catalog.standard := by
  simp [start, Catalog.size, h]

/-- Valid templates whose ids are distinct make a catalog.  A registry that is given this catalog
offers them if and only if there are any; without any it offers the standard templates. -/
theorem start_offers_iff (handlers : Handlers) (timeout : Value) (templates : List Workflow)
    (hdistinct : (templates.map Workflow.idText).Nodup) :
    Catalog.ofDefinitions (templates.map Workflow.definition) = .ok ⟨templates, hdistinct⟩ ∧
      ((start handlers timeout (some ⟨templates, hdistinct⟩)).Offers templates ↔ templates ≠ []) ∧
      (templates = [] →
        (start handlers timeout (some ⟨templates, hdistinct⟩)).Offers
          Catalog.standard.templates) := by
  refine ⟨Catalog.ofDefinitions_definitions templates hdistinct, ⟨?_, ?_⟩, ?_⟩
  · intro hoffers hnone
    have hlists := hoffers.lists
    rw [start_catalog_of_nil hnone, hnone] at hlists
    exact Catalog.standard_templates_ne_nil hlists
  · intro hsome
    have hoffers := offers_catalog (start handlers timeout (some ⟨templates, hdistinct⟩))
    rw [start_catalog_of_ne_nil hsome] at hoffers
    exact hoffers
  · intro hnone
    have hoffers := offers_catalog (start handlers timeout (some ⟨templates, hdistinct⟩))
    rw [start_catalog_of_nil hnone] at hoffers
    exact hoffers

def deadlineTemplate : Workflow := ⟨Catalog.deadlineAlert, by decide +kernel⟩

theorem start_offers_deadline :
    ([deadlineTemplate].map Workflow.idText).Nodup ∧
      (start Handlers.empty .null (some ⟨[deadlineTemplate], List.nodup_singleton _⟩)).Offers
        [deadlineTemplate] := by
  have hdistinct : ([deadlineTemplate].map Workflow.idText).Nodup := List.nodup_singleton _
  have hoffers := start_offers_iff Handlers.empty .null [deadlineTemplate] hdistinct
  exact ⟨hdistinct, hoffers.2.1.mpr (List.cons_ne_nil _ _)⟩

/-- A registry that is given a catalog without templates knows the id of a standard one. -/
theorem start_empty_activates :
    Catalog.ofDefinitions [] = .ok Catalog.empty ∧
      ∃ i t, i.workflow.idText = "prazo-7dias-alerta" ∧ t.registry.instances = [i] ∧
        (Desk.activateTemplate Desk.firstClock (.text "prazo-7dias-alerta")).Gives
          ⟨start Handlers.empty .null (some Catalog.empty), 0, []⟩ (.ok i) t := by
  refine ⟨rfl, ?_⟩
  have hfound : (Catalog.standard.templates.any fun w =>
      w.idText == "prazo-7dias-alerta" && w.isCopyable) = true := by decide +kernel
  obtain ⟨w, hmem, hw⟩ := List.any_eq_true.mp hfound
  obtain ⟨hid, hcopies⟩ : w.idText = "prazo-7dias-alerta" ∧ w.isCopyable = true := by
    simpa using hw
  obtain ⟨now, hclock⟩ := Desk.exists_moment_firstClock
  rw [← hid]
  exact ⟨_, _, rfl, rfl,
    Desk.gives_activateTemplate (Catalog.get_idText hmem) (Desk.gives_activate hcopies hclock _)⟩

end Registry

end CaseWorkflow
