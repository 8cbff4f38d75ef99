import CaseWorkflow.Queue.Broker
import Mathlib.Tactic

/-!
# The places of a queue

The texts of the messages stand in four places: those to be delivered, those that were
claimed, those that are due later and those that were given up.  What is done to the
places moves texts between them, adds a text or drops one.
-/

namespace CaseWorkflow

/-- What stands in the four places of a queue. -/
structure Board where
  pending : List String
  processing : List String
  delayed : Schedule
  dead : List String

namespace Board

/-- The places after the messages that are due have joined the pending ones. -/
def released (now : Double) (places : Board) : Board :=
  { places with
    pending := ((places.delayed.filter (Schedule.isDue now)).map Prod.snd).reverse ++ places.pending
    delayed := places.delayed.filter (!Schedule.isDue now ·) }

/-- The places after the oldest pending message was taken. -/
def taken (places : Board) : Board :=
  match places.pending.getLast? with
  | none => places
  | some text =>
    { places with
      pending := places.pending.dropLast
      processing := text :: places.processing }

/-- The text that is taken next, after the messages that are due have joined the pending
ones. -/
def next? (now : Double) (places : Board) : Option String :=
  (places.released now).pending.getLast?

/-- The places after a claim. -/
def claimed (now : Double) (places : Board) : Board := (places.released now).taken

/-- The places after a text was dropped from the claimed ones, if one was found. -/
def dropped (text? : Option String) (places : Board) : Board :=
  match text? with
  | none => places
  | some text => { places with processing := places.processing.erase text }

/-- The places after a text joined the pending ones. -/
def queued (text : String) (places : Board) : Board :=
  { places with pending := text :: places.pending }

/-- The places after a text joined the ones that are due later. -/
def planned (due : Double) (text : String) (places : Board) : Board :=
  { places with
    delayed := Schedule.insert (due, text) (places.delayed.filter (·.2 != text)) }

/-- The places after a text joined the ones that were given up. -/
def buried (text : String) (places : Board) : Board :=
  { places with dead := text :: places.dead }

/-- The texts to be delivered, at once or later. -/
def waiting (places : Board) : List String := places.pending ++ places.delayed.map Prod.snd

/-- All texts in the four places. -/
def texts (places : Board) : List String := places.waiting ++ places.processing ++ places.dead

variable {places : Board}

theorem mem_texts {text : String} :
    text ∈ places.texts ↔
      text ∈ places.waiting ∨ text ∈ places.processing ∨ text ∈ places.dead := by
  simp only [texts, List.mem_append, or_assoc]

/-! ## What stands where afterwards -/

theorem perm_insert (entry : Double × String) (schedule : Schedule) :
    (Schedule.insert entry schedule).Perm (entry :: schedule) := by
  induction schedule with
  | nil => exact .refl _
  | cons other rest ih =>
      rw [Schedule.insert]
      split
      next => exact .refl _
      next => exact (ih.cons other).trans (.swap entry other rest)

theorem waiting_released (now : Double) (places : Board) :
    (places.released now).waiting.Perm places.waiting := by
  have hsplit := (List.filter_append_perm (Schedule.isDue now) places.delayed).map Prod.snd
  rw [List.map_append] at hsplit
  calc (places.released now).waiting
    _ = ((places.delayed.filter (Schedule.isDue now)).map Prod.snd).reverse ++ places.pending
          ++ (places.delayed.filter (!Schedule.isDue now ·)).map Prod.snd := rfl
    _ |>.Perm (places.pending ++ ((places.delayed.filter (Schedule.isDue now)).map Prod.snd
          ++ (places.delayed.filter (!Schedule.isDue now ·)).map Prod.snd)) := by
        rw [← List.append_assoc]
        exact (((List.reverse_perm _).append_right _).trans List.perm_append_comm).append_right _
    _ |>.Perm places.waiting := hsplit.append_left _

theorem texts_released (now : Double) (places : Board) :
    (places.released now).texts.Perm places.texts :=
  ((waiting_released now places).append_right _).append_right _

/-- Nothing joins the pending messages if and only if nothing is due. -/
theorem released_eq_self_iff {now : Double} :
    places.released now = places ↔ ∀ entry ∈ places.delayed, Schedule.isDue now entry = false := by
  constructor
  · intro heq entry hentry
    rw [← heq] at hentry
    simpa using (List.mem_filter.mp hentry).2
  · intro hnone
    have hdue : places.delayed.filter (Schedule.isDue now) = [] := by
      simpa [List.filter_eq_nil_iff] using hnone
    have hlater : places.delayed.filter (!Schedule.isDue now ·) = places.delayed := by
      simpa [List.filter_eq_self] using hnone
    rw [released, hdue, hlater]
    rfl

theorem released_released (now : Double) (places : Board) :
    (places.released now).released now = places.released now := by
  rw [released_eq_self_iff]
  intro entry hentry
  simpa using (List.mem_filter.mp hentry).2

/-- After a claim nothing is due any more. -/
theorem released_claimed (now : Double) (places : Board) :
    (places.claimed now).released now = places.claimed now := by
  have hdelayed : (places.claimed now).delayed = (places.released now).delayed := by
    unfold claimed taken
    split <;> rfl
  rw [released_eq_self_iff, hdelayed]
  exact released_eq_self_iff.mp (released_released now places)

/-- A claim takes one of the texts that wait, if there is one. -/
theorem claimed_of_next {now : Double} {text : String} (h : places.next? now = some text) :
    places.waiting.Perm (text :: (places.claimed now).waiting) ∧
      (places.claimed now).processing = text :: places.processing ∧
      (places.claimed now).dead = places.dead := by
  unfold claimed taken
  rw [next?] at h
  rw [h]
  refine ⟨?_, rfl, rfl⟩
  apply (waiting_released now places).symm.trans
  have hlast := List.dropLast_append_getLast? text h
  have hperm : (places.released now).pending.Perm
      (text :: (places.released now).pending.dropLast) := by
    rw [← hlast, List.dropLast_concat]
    exact List.perm_append_singleton _ _
  exact hperm.append_right _

theorem claimed_of_no_next {now : Double} (h : places.next? now = none) :
    (places.claimed now).waiting.Perm places.waiting ∧
      (places.claimed now).processing = places.processing ∧
      (places.claimed now).dead = places.dead := by
  unfold claimed taken
  rw [next?] at h
  rw [h]
  exact ⟨waiting_released now places, rfl, rfl⟩

/-- A claim drops no text and adds none. -/
theorem texts_claimed (now : Double) (places : Board) :
    (places.claimed now).texts.Perm places.texts := by
  unfold texts
  cases hnext : places.next? now with
  | none =>
      obtain ⟨hwaiting, hprocessing, hdead⟩ := claimed_of_no_next hnext
      rw [hprocessing, hdead]
      exact (hwaiting.append_right _).append_right _
  | some text =>
      obtain ⟨hwaiting, hprocessing, hdead⟩ := claimed_of_next hnext
      rw [hprocessing, hdead]
      apply List.Perm.append_right
      exact List.perm_middle.trans (hwaiting.symm.append_right _)

/-- Where nothing waits, a claim changes nothing. -/
theorem claimed_of_waiting_nil (now : Double) (h : places.waiting = []) :
    places.next? now = none ∧ places.claimed now = places := by
  obtain ⟨hpending, hdelayed⟩ := List.append_eq_nil_iff.mp h
  have hschedule : places.delayed = [] := List.map_eq_nil_iff.mp hdelayed
  obtain ⟨pending, processing, delayed, dead⟩ := places
  obtain rfl : pending = [] := hpending
  obtain rfl : delayed = [] := hschedule
  exact ⟨rfl, rfl⟩

theorem waiting_queued (text : String) (places : Board) :
    (places.queued text).waiting = text :: places.waiting := rfl

theorem texts_buried (text : String) (places : Board) :
    (places.buried text).texts.Perm (text :: places.texts) := List.perm_middle

/-- A text that does not wait yet is planned beside those that do. -/
theorem waiting_planned (due : Double) {text : String} (h : text ∉ places.waiting) :
    (places.planned due text).waiting.Perm (text :: places.waiting) := by
  have hothers : places.delayed.filter (·.2 != text) = places.delayed := by
    rw [List.filter_eq_self]
    intro entry hentry
    have hne : entry.2 ≠ text := by
      rintro rfl
      exact h (List.mem_append_right _ (List.mem_map_of_mem hentry))
    simpa using hne
  unfold planned
  rw [hothers]
  have hinsert := (perm_insert (due, text) places.delayed).map Prod.snd
  exact (hinsert.append_left places.pending).trans List.perm_middle

theorem dropped_waiting (text? : Option String) (places : Board) :
    (places.dropped text?).waiting = places.waiting := by
  cases text? <;> rfl

theorem dropped_dead (text? : Option String) (places : Board) :
    (places.dropped text?).dead = places.dead := by
  cases text? <;> rfl

theorem dropped_processing_subset (text? : Option String) (places : Board) :
    (places.dropped text?).processing ⊆ places.processing := by
  cases text? with
  | none => exact List.Subset.refl _
  | some text => exact List.erase_subset

end Board

end CaseWorkflow
