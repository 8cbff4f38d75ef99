import CaseWorkflow.Proofs.Registry.Matching

/-!
# Handling an event

A registry runs an event through its active instances in the order of their activation.  What
it comes to for one of them does not depend on the others.
-/

namespace CaseWorkflow

namespace Registry

variable {r : Registry} {i : Instance}

/-- What is put in the place of an instance keeps the ids. -/
theorem map_id_replace (r : Registry) (i : Instance) :
    (r.replace i).instances.map Instance.id = r.instances.map Instance.id := by
  simp only [replace, List.map_map]
  apply List.map_congr_left
  intro j _
  simp only [Function.comp_apply, beq_iff_eq]
  split
  next hid => exact hid.symm
  next => rfl

/-- The later of two replacements counts. -/
theorem replace_replace {j : Instance} (h : j.id = i.id) :
    (r.replace i).replace j = r.replace j := by
  simp only [replace, List.map_map, Registry.mk.injEq, true_and]
  apply List.map_congr_left
  intro k _
  simp only [Function.comp_apply, beq_iff_eq, h]
  split
  next => rw [if_pos rfl]
  next => rfl

end Registry

namespace Desk

variable {desk : Desk} {clock : Clock} {now : Moment} {event : Event}

theorem gives_moment (hclock : clock.moment = .ok now) (t : Desk) :
    (moment clock).Gives t (.ok now) t := by
  unfold moment
  rw [hclock]
  exact Attempt.gives_ofExcept _ t

/-- Running an instance comes to a finding, whatever its handlers do, and counts the event if
the trigger matched. -/
theorem ends_execute_any (hclock : clock.moment = .ok now) (event : Event) (i : Instance) :
    (execute clock event i).Ends desk fun result t => ∃ finding,
      ((i.react desk.registry.dispatcher event).run desk.calls).result = .ok finding ∧
        result = .ok ⟨i.id, finding, now⟩ ∧ finding.isMatched = i.firesOn event ∧
        finding.Suits i.workflow ∧ t.issued = desk.issued ∧
        t.registry = if i.firesOn event then desk.registry.replace (i.counted.stamped now)
          else desk.registry := by
  obtain ⟨finding, hfinding, hmatched, hsuits⟩ :=
    i.succeeds_react (d := desk.registry.dispatcher) rfl event desk.calls
  unfold execute
  apply Attempt.Ends.bind_ok (Attempt.gives_get desk)
  have hon : (Attempt.on Desk.calls (fun calls desk => { desk with calls })
      (i.react desk.registry.dispatcher event)).Gives desk (.ok finding)
      { desk with calls := ((i.react desk.registry.dispatcher event).run desk.calls).state } :=
    ⟨hfinding, rfl⟩
  apply Attempt.Ends.bind_ok hon
  dsimp only
  rw [hmatched]
  cases hfires : i.firesOn event with
  | false =>
      apply Attempt.Ends.bind_ok (gives_moment hclock _)
      rw [hfires] at hmatched
      exact (Attempt.gives_pure _ _).ends ⟨finding, hfinding, rfl, hmatched, hsuits, rfl, rfl⟩
  | true =>
      apply Attempt.Ends.bind_ok (Attempt.gives_modify _ _)
      apply Attempt.Ends.bind_ok (gives_moment hclock _)
      apply Attempt.Ends.bind_ok (Attempt.gives_modify _ _)
      rw [hfires] at hmatched
      exact (Attempt.gives_pure _ _).ends
        ⟨finding, hfinding, rfl, hmatched, hsuits, rfl, Registry.replace_replace rfl⟩

/-- Running an instance comes to what it finds, and counts the event if the trigger matched. -/
theorem ends_execute (hsteady : desk.registry.handlers.Steady) (hclock : clock.moment = .ok now)
    (event : Event) (i : Instance) :
    (execute clock event i).Ends desk fun result t =>
      result = .ok ⟨i.id, i.found desk.registry.dispatcher event, now⟩ ∧
        t.issued = desk.issued ∧
        t.registry = if (i.found desk.registry.dispatcher event).isMatched then
          desk.registry.replace (i.counted.stamped now) else desk.registry := by
  obtain ⟨hfound, -⟩ := i.steady_found (d := desk.registry.dispatcher) hsteady rfl event
  apply (ends_execute_any hclock event i).mono
  rintro result t ⟨finding, hfinding, rfl, hmatched, -, hissued, hregistry⟩
  obtain rfl := Except.ok.inj ((hfound desk.calls).symm.trans hfinding)
  rw [← hmatched] at hregistry
  exact ⟨rfl, hissued, hregistry⟩

/-- The instance after an event was handled: paused ones are left as they are. -/
def settled (d : Dispatcher) (event : Event) (now : Moment) (i : Instance) : Instance :=
  if i.isActive then i.executed d event now else i

/-- The desk on the way through its active instances, of which the rest is still to be run:
the others have become what they become, and each keeps its place. -/
def Underway (desk : Desk) (become : Instance → Instance) (rest : List Instance) (t : Desk) :
    Prop :=
  rest <:+ desk.registry.active ∧ t.issued = desk.issued ∧
    ∃ F : Instance → Instance,
      t.registry = { desk.registry with instances := desk.registry.instances.map F } ∧
        (∀ i, (F i).id = i.id) ∧ (∀ i ∈ rest, F i = i) ∧
        ∀ i ∈ desk.registry.instances, i ∉ rest → F i = become i

section Underway

variable {become : Instance → Instance} {i : Instance} {rest : List Instance} {s t : Desk}

theorem underway_start (hpaused : ∀ i, i.isActive = false → become i = i) :
    Underway desk become desk.registry.active desk := by
  refine ⟨List.suffix_refl _, rfl, id, ?_, fun _ => rfl, fun _ _ => rfl, fun i hi hrest => ?_⟩
  · rw [List.map_id]
  · have hinactive : i.isActive = false := by
      rw [Bool.eq_false_iff]
      exact fun hactive => hrest (List.mem_filter.mpr ⟨hi, hactive⟩)
    exact (hpaused i hinactive).symm

theorem Underway.dispatcher (h : Underway desk become rest s) :
    s.registry.dispatcher = desk.registry.dispatcher := by
  obtain ⟨-, -, F, hregistry, -⟩ := h
  rw [hregistry]
  rfl

theorem Underway.handlers (h : Underway desk become rest s) :
    s.registry.handlers = desk.registry.handlers := by
  obtain ⟨-, -, F, hregistry, -⟩ := h
  rw [hregistry]

theorem Underway.head_active (h : Underway desk become (i :: rest) s) : i.isActive = true :=
  (List.mem_filter.mp (h.1.mem List.mem_cons_self)).2

/-- Running the next instance replaces it or leaves it, and no other one. -/
theorem Underway.next (hdistinct : (desk.registry.instances.map Instance.id).Nodup)
    (h : Underway desk become (i :: rest) s) (hissued : t.issued = s.issued)
    (hregistry : (t.registry = s.registry ∧ become i = i) ∨
      (t.registry = s.registry.replace (become i) ∧ (become i).id = i.id)) :
    Underway desk become rest t := by
  obtain ⟨hsuffix, hissued', F, hbefore, hid, hrest, hdone⟩ := h
  have hmem := (List.mem_filter.mp (hsuffix.mem List.mem_cons_self)).1
  have hsuffix' : rest <:+ desk.registry.active := (List.suffix_cons i rest).trans hsuffix
  have hfresh : i ∉ rest := by
    have hnodup := hsuffix.sublist.nodup (hdistinct.of_map _ |>.filter _)
    exact (List.nodup_cons.mp hnodup).1
  refine ⟨hsuffix', hissued.trans hissued', ?_⟩
  rcases hregistry with ⟨hsame, hkept⟩ | ⟨hreplaced, hbecome⟩
  · refine ⟨F, hsame.trans hbefore, hid,
      fun j hj => hrest j (List.mem_cons_of_mem i hj), fun j hj hnot => ?_⟩
    by_cases hji : j = i
    · rw [hji, hrest i List.mem_cons_self, hkept]
    · exact hdone j hj fun hmem => (List.mem_cons.mp hmem).elim hji hnot
  · refine ⟨fun j => if (F j).id == (become i).id then become i else F j, ?_, fun j => ?_,
      fun j hj => ?_, fun j hj hnot => ?_⟩
    · rw [hreplaced, hbefore]
      simp only [Registry.replace, List.map_map, Registry.mk.injEq, true_and]
      rfl
    · simp only [beq_iff_eq]
      split
      next heq => exact heq.symm.trans (hid j)
      next => exact hid j
    · have hactive := (List.mem_filter.mp (hsuffix'.mem hj)).1
      have hne : ¬j.id = i.id := fun heq =>
        hfresh (List.inj_on_of_nodup_map hdistinct hactive hmem heq ▸ hj)
      simp only [hid, hbecome, beq_iff_eq, if_neg hne]
      exact hrest j (List.mem_cons_of_mem i hj)
    · by_cases hji : j = i
      · rw [hji]
        simp only [hid, hbecome, beq_self_eq_true, if_true]
      · have hne : ¬j.id = i.id := fun heq =>
          hji (List.inj_on_of_nodup_map hdistinct hj hmem heq)
        simp only [hid, hbecome, beq_iff_eq, if_neg hne]
        exact hdone j hj fun hmem => (List.mem_cons.mp hmem).elim hji hnot

theorem Underway.finished (h : Underway desk become [] t) :
    t.registry = { desk.registry with instances := desk.registry.instances.map become } := by
  obtain ⟨-, -, F, hregistry, -, -, hdone⟩ := h
  rw [hregistry, List.map_congr_left fun i hi => hdone i hi List.not_mem_nil]

end Underway

/-- Running the next instance settles it and no other one. -/
theorem ends_execute_underway (hdistinct : (desk.registry.instances.map Instance.id).Nodup)
    (hsteady : desk.registry.handlers.Steady) (hclock : clock.moment = .ok now) {i : Instance}
    {rest : List Instance} {s : Desk}
    (h : Underway desk (settled desk.registry.dispatcher event now) (i :: rest) s) :
    (execute clock event i).Ends s fun result t =>
      result = .ok ⟨i.id, i.found desk.registry.dispatcher event, now⟩ ∧
        Underway desk (settled desk.registry.dispatcher event now) rest t := by
  have hsettled : settled desk.registry.dispatcher event now i
      = i.executed desk.registry.dispatcher event now := if_pos h.head_active
  rw [← h.handlers] at hsteady
  apply (ends_execute hsteady hclock event i).mono
  rw [h.dispatcher]
  rintro result t ⟨rfl, hissued, hregistry⟩
  refine ⟨rfl, h.next hdistinct hissued ?_⟩
  rw [hsettled, Instance.executed]
  cases hmatched : (i.found desk.registry.dispatcher event).isMatched with
  | false =>
      rw [hmatched] at hregistry
      exact .inl ⟨hregistry, rfl⟩
  | true =>
      rw [hmatched] at hregistry
      exact .inr ⟨hregistry, rfl⟩

/-- Handling an event is running each active instance on it. -/
theorem ends_handle (hdistinct : (desk.registry.instances.map Instance.id).Nodup)
    (hsteady : desk.registry.handlers.Steady) (hclock : clock.moment = .ok now) (event : Event) :
    (handle clock event).Ends desk fun result t =>
      result = .ok (desk.registry.active.map fun i =>
          ⟨i.id, i.found desk.registry.dispatcher event, now⟩) ∧
        t.registry.instances
          = desk.registry.instances.map (settled desk.registry.dispatcher event now) := by
  unfold handle
  apply Attempt.Ends.bind_ok (Attempt.gives_get desk)
  have hpaused : ∀ i : Instance, i.isActive = false →
      settled desk.registry.dispatcher event now i = i := by
    intro i hinactive
    rw [settled, hinactive]
    rfl
  have hall := Attempt.ends_mapM
    (P := Underway desk (settled desk.registry.dispatcher event now))
    (fun i rest s h => ends_execute_underway hdistinct hsteady hclock h) (underway_start hpaused)
  apply hall.bind
  · rintro fault t ⟨heq, -⟩
    cases heq
  rintro executions t ⟨heq, hdone⟩
  obtain rfl := Except.ok.inj heq
  apply Attempt.Ends.bind_ok (Attempt.gives_note _ _ _ t)
  exact (Attempt.gives_pure _ t).ends ⟨rfl, by rw [hdone.finished]⟩

/-- An event is noted by the active instances whose trigger matches, whatever the handlers
do. -/
theorem ends_handle_any (hdistinct : (desk.registry.instances.map Instance.id).Nodup)
    (hclock : clock.moment = .ok now) (event : Event) :
    (handle clock event).Ends desk fun result t =>
      (∃ executions, result = .ok executions ∧
          List.Forall₂ (fun i e => e.workflow = i.id ∧ e.matched = i.firesOn event)
            desk.registry.active executions) ∧
        t.issued = desk.issued ∧
        t.registry = { desk.registry with
          instances := desk.registry.instances.map (Instance.handled event now) } := by
  have hstart : Underway desk (Instance.handled event now) desk.registry.active desk :=
    underway_start fun i hinactive => by simp [Instance.handled, hinactive]
  unfold handle
  apply Attempt.Ends.bind_ok (Attempt.gives_get desk)
  have hall := Attempt.ends_mapM_forall₂ (f := execute clock event)
    (R := fun i e => e.workflow = i.id ∧ e.matched = i.firesOn event) ?_ hstart
  · apply hall.bind
    · rintro fault t ⟨_, heq, -⟩
      cases heq
    rintro executions t ⟨_, heq, hexecutions, hdone⟩
    obtain rfl := Except.ok.inj heq
    apply Attempt.Ends.bind_ok (Attempt.gives_note _ _ _ t)
    exact (Attempt.gives_pure _ t).ends ⟨⟨_, rfl, hexecutions⟩, hdone.2.1, hdone.finished⟩
  · intro i rest s hunderway
    apply (ends_execute_any hclock event i).mono
    rintro result t ⟨finding, -, rfl, hmatched, -, hissued, hregistry⟩
    refine ⟨_, rfl, ⟨rfl, hmatched⟩, hunderway.next hdistinct hissued ?_⟩
    rw [Instance.handled, if_pos hunderway.head_active, Instance.noted]
    cases hfires : i.firesOn event with
    | false =>
        rw [hfires] at hregistry
        exact .inl ⟨hregistry, rfl⟩
    | true =>
        rw [hfires] at hregistry
        exact .inr ⟨hregistry, rfl⟩

/-- Whatever the handlers do, an event is handled if the clock shows a moment. -/
theorem succeeds_handle (hclock : clock.moment = .ok now) (event : Event) :
    (handle clock event).Succeeds fun _ => True := by
  have hexecute : ∀ i, (execute clock event i).Succeeds fun _ => True := by
    intro i desk
    have hends : (execute clock event i).Ends desk fun result _ => ∃ e, result = .ok e := by
      apply (ends_execute_any hclock event i).mono
      rintro result t ⟨finding, -, rfl, -⟩
      exact ⟨_, rfl⟩
    obtain ⟨e, hresult⟩ := hends
    exact ⟨e, hresult, trivial⟩
  unfold handle
  apply Attempt.succeeds_get.bind
  intro desk _
  apply (Attempt.succeeds_mapM hexecute desk.registry.active).bind
  intro executions _
  apply (Attempt.succeeds_note _ _ _).bind
  exact fun _ _ => Attempt.succeeds_pure trivial

theorem exists_gives_handle (hclock : clock.moment = .ok now) (event : Event) (desk : Desk) :
    ∃ executions after, (handle clock event).Gives desk (.ok executions) after := by
  obtain ⟨executions, hexecutions, -⟩ := succeeds_handle hclock event desk
  exact ⟨executions, _, hexecutions, rfl⟩

end Desk

end CaseWorkflow
