import CaseWorkflow.Proofs.Queue.View

/-!
# The situation of a message

A message that was claimed so many times waits for its next claim, is claimed, was given up,
or was handled.  Claims and settlements lead from one situation to another; a message that
was given up or handled stays where it is.
-/

namespace CaseWorkflow

namespace View

variable {v w : View}

theorem eq_of_perm_of_length_le_one {l m : List String} (h : m.Perm l) (hshort : l.length ≤ 1) :
    m = l := by
  match l with
  | [] => exact h.eq_nil
  | [text] => exact List.perm_singleton.mp h
  | _ :: _ :: _ => simp at hshort

theorem Alike.eq (h : v.Alike w) (hshort : v.texts.length ≤ 1) : w = v := by
  obtain ⟨waiting, processing, dead⟩ := v
  obtain ⟨waiting', processing', dead'⟩ := w
  obtain ⟨hwaiting, hprocessing, hdead⟩ := h
  simp only [texts, List.length_append] at hshort hwaiting hprocessing hdead
  rw [eq_of_perm_of_length_le_one hwaiting (by omega),
    eq_of_perm_of_length_le_one hprocessing (by omega),
    eq_of_perm_of_length_le_one hdead (by omega)]

/-- Nothing of the message can be claimed or settled any more. -/
def Closed (v : View) : Prop := v.waiting = [] ∧ v.processing = []

end View

namespace Queue

/-- Where a message can be found after so many claims. -/
inductive Placed (p : Message) (limit : ℤ) (claims : ℕ) (done : Prop) : View → Prop
  | waiting {text : String} (hopen : ¬done) (hclaims : claims + 1 ≤ max 1 limit)
      (hentry : p.Entry (claims + 1) none text) : Placed p limit claims done ⟨[text], [], []⟩
  | claimed {text : String} (hopen : ¬done) (hentry : p.Entry claims none text) :
      Placed p limit claims done ⟨[], [text], []⟩
  | dead {text reason : String} (hopen : ¬done) (hentry : p.Entry claims (some reason) text) :
      Placed p limit claims done ⟨[], [], [text]⟩
  | handled (hdone : done) : Placed p limit claims done ⟨[], [], []⟩

namespace Placed

variable {p : Message} {limit : ℤ} {claims : ℕ} {done : Prop} {v w : View} {text : String}

theorem length_le_one (h : Placed p limit claims done v) : v.texts.length ≤ 1 := by
  cases h <;> simp [View.texts]

theorem eq_of_alike (h : Placed p limit claims done v) (halike : v.Alike w) : w = v :=
  halike.eq h.length_le_one

theorem of_waiting (h : Placed p limit claims done v) (hwaiting : v.waiting ≠ []) :
    ¬done ∧ claims + 1 ≤ max 1 limit ∧
      ∃ text, v = ⟨[text], [], []⟩ ∧ p.Entry (claims + 1) none text := by
  cases h with
  | @waiting text hopen hclaims hentry => exact ⟨hopen, hclaims, text, rfl, hentry⟩
  | claimed | dead | handled => exact absurd rfl hwaiting

theorem of_mem_processing (h : Placed p limit claims done v) (hmem : text ∈ v.processing) :
    ¬done ∧ v = ⟨[], [text], []⟩ ∧ p.Entry claims none text := by
  cases h with
  | @claimed other hopen hentry =>
      obtain rfl := List.mem_singleton.mp hmem
      exact ⟨hopen, rfl, hentry⟩
  | waiting | dead | handled => simp at hmem

end Placed

/-- A message with the texts that were taken for it and whether it was handled. -/
structure Situated (limit : ℤ) (taken handled : List String) (places : Board) (p : Message) :
    Prop where
  numbered : ∀ i text, (taken.filter p.owns)[i]? = some text → p.Entry (i + 1) none text
  bounded : (taken.filter p.owns).length ≤ max 1 limit
  placed : Placed p limit (taken.filter p.owns).length (∃ text ∈ handled, p.owns text = true)
    (places.view p)

/-- A claimed message is left, put back for its next attempt if it has one left, or given
up. -/
inductive Settles (p : Message) (k : ℕ) (limit : ℤ) (places : Board) : Board → Prop
  | kept : Settles p k limit places places
  | queued {text? : Option String} {text : String} (hfound : Ledger.Found places.processing p text?)
      (hk : k < limit) (hentry : p.Entry (k + 1) none text) :
      Settles p k limit places ((places.dropped text?).queued text)
  | buried {text? : Option String} {text reason : String}
      (hfound : Ledger.Found places.processing p text?) (hentry : p.Entry k (some reason) text) :
      Settles p k limit places ((places.dropped text?).buried text)

variable {q : Queue} {b t : Broker} {published : List Message} {bound k : ℕ} {limit : ℤ}
variable {p p' : Message} {text : String} {taken handled : List String} {places : Board}

theorem Situated.of_alike {places' : Board} (h : Situated limit taken handled places p)
    (halike : (places.view p).Alike (places'.view p)) : Situated limit taken handled places' p := by
  refine ⟨h.numbered, h.bounded, ?_⟩
  rw [h.placed.eq_of_alike halike]
  exact h.placed

namespace Ledger

variable {text? : Option String}

theorem view_queued_other {reason : Option String} (h : q.Ledger published bound b)
    (hp : p ∈ published) (hp' : p' ∈ published) (hne : p' ≠ p) (hentry : p.Entry k reason text)
    (places : Board) :
    (places.queued text).view p' = places.view p' ∧
      (places.buried text).view p' = places.view p' := by
  have hnot : ¬p'.owns text = true := (h.owns_iff hp hp' hentry).not.mpr hne
  constructor
  · rw [Board.view, Board.waiting_queued, List.filter_cons_of_neg hnot]
    rfl
  · simp only [Board.view, Board.buried, List.filter_cons_of_neg hnot]
    rfl

theorem view_queued_same {reason : Option String} (h : q.Ledger published bound b)
    (hp : p ∈ published) (hentry : p.Entry k reason text) (hview : places.view p = ⟨[], [], []⟩) :
    (places.queued text).view p = ⟨[text], [], []⟩ ∧
      (places.buried text).view p = ⟨[], [], [text]⟩ := by
  have howns := hentry.owns (h.issued p hp)
  simp only [Board.view, View.mk.injEq] at hview
  constructor
  · rw [Board.view, Board.waiting_queued, List.filter_cons_of_pos howns, hview.1]
    exact congrArg₂ (View.mk [text]) hview.2.1 hview.2.2
  · simp only [Board.view, Board.buried, List.filter_cons_of_pos howns, hview.2.2]
    exact congrArg₂ (View.mk · · [text]) hview.1 hview.2.1

/-- A settlement of one message leaves the others as they are. -/
theorem view_settles_other (h : q.Ledger published bound b) (hp : p ∈ published)
    (hp' : p' ∈ published) (hne : p' ≠ p) (hsettles : Settles p k limit (q.board b) places) :
    ((q.board b).view p').Alike (places.view p') := by
  cases hsettles with
  | kept => exact .refl _
  | queued hfound hk hentry =>
      rw [(h.view_queued_other hp hp' hne hentry _).1]
      exact h.view_dropped_other hp hp' hne hfound
  | buried hfound hentry =>
      rw [(h.view_queued_other hp hp' hne hentry _).2]
      exact h.view_dropped_other hp hp' hne hfound

/-- A settlement of a claimed message leads to where it can be after as many claims. -/
theorem placed_settles (h : q.Ledger published bound b) (hp : p ∈ published) {claims : ℕ}
    {done : Prop} (hplaced : Placed p limit claims done ((q.board b).view p))
    (hentry : p.Entry k none text) (hmem : text ∈ (q.board b).processing)
    (hsettles : Settles p k limit (q.board b) places) :
    Placed p limit claims done (places.view p) := by
  have howns := hentry.owns (h.issued p hp)
  obtain ⟨hopen, hview, hclaimed⟩ :=
    hplaced.of_mem_processing (List.mem_filter.mpr ⟨hmem, howns⟩)
  obtain rfl := hentry.attempt_eq hclaimed (h.issued p hp)
  cases hsettles with
  | kept => exact hplaced
  | queued hfound hk hnext =>
      obtain ⟨-, hdropped⟩ := view_dropped_same hfound hview
      rw [(h.view_queued_same hp hnext hdropped).1]
      exact .waiting hopen (by omega) hnext
  | buried hfound hdead =>
      obtain ⟨-, hdropped⟩ := view_dropped_same hfound hview
      rw [(h.view_queued_same hp hdead hdropped).2]
      exact .dead hopen hdead

/-! ## From one situation to another -/

/-- A settlement of one message keeps all in their situations. -/
theorem situated_settles (h : q.Ledger published bound b) (hp : p ∈ published)
    (hentry : p.Entry k none text) (hmem : text ∈ (q.board b).processing)
    (hsettles : Settles p k limit (q.board b) places) (hp' : p' ∈ published)
    (hsituated : Situated limit taken handled (q.board b) p') :
    Situated limit taken handled places p' ∧
      (((q.board b).view p').Closed → (places.view p').Closed) := by
  by_cases hne : p' = p
  · subst hne
    refine ⟨⟨hsituated.numbered, hsituated.bounded, ?_⟩, fun hclosed => ?_⟩
    · exact h.placed_settles hp hsituated.placed hentry hmem hsettles
    · have howns := hentry.owns (h.issued p' hp)
      exact absurd hclosed.2 (List.ne_nil_of_mem (List.mem_filter.mpr ⟨hmem, howns⟩))
  · have halike := h.view_settles_other hp hp' hne hsettles
    refine ⟨hsituated.of_alike halike, fun hclosed => ?_⟩
    rwa [hsituated.placed.eq_of_alike halike]

/-- A message that is handled is dropped. -/
theorem situated_handled (h : q.Ledger published bound b) (hp : p ∈ published)
    (hentry : p.Entry k none text) (hmem : text ∈ (q.board b).processing)
    (hfound : Found (q.board b).processing p text?) (hp' : p' ∈ published)
    (hsituated : Situated limit taken handled (q.board b) p') :
    Situated limit taken (handled ++ [text]) ((q.board b).dropped text?) p' ∧
      (((q.board b).view p').Closed → (((q.board b).dropped text?).view p').Closed) := by
  have howns := hentry.owns (h.issued p hp)
  by_cases hne : p' = p
  · subst hne
    have hview := List.mem_filter.mpr ⟨hmem, howns⟩
    obtain ⟨-, hclaimed, -⟩ := hsituated.placed.of_mem_processing hview
    obtain ⟨-, hdropped⟩ := view_dropped_same hfound hclaimed
    refine ⟨⟨hsituated.numbered, hsituated.bounded, ?_⟩, fun _ => ?_⟩
    · rw [hdropped]
      exact .handled ⟨text, by simp, howns⟩
    · rw [hdropped]
      exact ⟨rfl, rfl⟩
  · have halike := h.view_dropped_other hp hp' hne hfound
    have hnot : ¬p'.owns text = true := (h.owns_iff hp hp' hentry).not.mpr hne
    have hdone : (∃ other ∈ handled ++ [text], p'.owns other = true) ↔
        ∃ other ∈ handled, p'.owns other = true := by
      simp only [List.mem_append, List.mem_singleton, or_and_right, exists_or, exists_eq_left, hnot,
        Bool.false_eq_true, or_false]
    refine ⟨⟨hsituated.numbered, hsituated.bounded, ?_⟩, fun hclosed => ?_⟩
    · rw [hdone, hsituated.placed.eq_of_alike halike]
      exact hsituated.placed
    · rwa [hsituated.placed.eq_of_alike halike]

theorem situated_claimed_same {now : Double} (h : (q.board b).next? now = some text)
    (howns : p.owns text = true) (hsituated : Situated limit taken handled (q.board b) p) :
    Situated limit (taken ++ [text]) handled ((q.board b).claimed now) p := by
  obtain ⟨hopen, hclaims, other, hview, hentry⟩ :=
    hsituated.placed.of_waiting (Board.view_waiting_ne_nil h howns)
  obtain ⟨rfl, hclaimed⟩ := Board.view_claimed h howns hview
  have hfilter : (taken ++ [other]).filter p.owns = taken.filter p.owns ++ [other] := by
    rw [List.filter_append, List.filter_cons_of_pos howns, List.filter_nil]
  constructor
  · intro i text htext
    rw [hfilter, List.getElem?_append] at htext
    split at htext
    next => exact hsituated.numbered i text htext
    next hlate =>
      -- Behind the earlier claims there is only the new one.
      obtain ⟨hi, rfl⟩ := List.getElem?_eq_some_iff.mp htext
      rw [List.length_singleton] at hi
      have hlast : i = (taken.filter p.owns).length := by omega
      rw [List.getElem_singleton, hlast]
      exact hentry
  · rw [hfilter, List.length_append, List.length_singleton]
    exact_mod_cast hclaims
  · rw [hfilter, List.length_append, List.length_singleton, hclaimed]
    exact .claimed hopen hentry

/-- A claim keeps all in their situations, and none is claimed that is closed. -/
theorem situated_claimed (now : Double) (hsituated : Situated limit taken handled (q.board b) p) :
    Situated limit (taken ++ ((q.board b).next? now).toList) handled ((q.board b).claimed now) p ∧
      (((q.board b).view p).Closed →
        (taken ++ ((q.board b).next? now).toList).filter p.owns = taken.filter p.owns ∧
          (((q.board b).claimed now).view p).Closed) := by
  cases hnext : (q.board b).next? now with
  | none =>
      have halike := Board.alike_claimed_of_no_next (p := p) hnext
      rw [Option.toList_none, List.append_nil]
      refine ⟨hsituated.of_alike halike, fun hclosed => ⟨rfl, ?_⟩⟩
      rwa [hsituated.placed.eq_of_alike halike]
  | some text =>
      rw [Option.toList_some]
      cases howns : p.owns text with
      | true =>
          refine ⟨situated_claimed_same hnext howns hsituated, fun hclosed => ?_⟩
          exact absurd hclosed.1 (Board.view_waiting_ne_nil hnext howns)
      | false =>
          have halike := Board.alike_claimed hnext howns
          have hfilter : (taken ++ [text]).filter p.owns = taken.filter p.owns := by
            rw [List.filter_append, List.filter_cons_of_neg (Bool.eq_false_iff.mp howns),
              List.filter_nil, List.append_nil]
          constructor
          · constructor
            · rw [hfilter]
              exact hsituated.numbered
            · rw [hfilter]
              exact hsituated.bounded
            · rw [hfilter, hsituated.placed.eq_of_alike halike]
              exact hsituated.placed
          · intro hclosed
            rw [hsituated.placed.eq_of_alike halike]
            exact ⟨hfilter, hclosed⟩

end Ledger

end Queue

end CaseWorkflow
