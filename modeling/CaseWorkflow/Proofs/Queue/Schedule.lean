import CaseWorkflow.Proofs.Number.Order
import CaseWorkflow.Proofs.Queue.Board
import Mathlib.Data.List.Sort
import Mathlib.Data.Prod.Lex
import Mathlib.Data.String.Basic

/-!
# The order of a schedule

A schedule is kept in the order of its times, and of the texts where two times are the same.
Whatever order its entries came in, they leave it in this one.
-/

namespace CaseWorkflow.Schedule

variable {a b entry : Double × String} {schedule entries : Schedule} {now : Double}

/-- Where an entry stands: by its time, then by its text. -/
def place (entry : Double × String) : Line ×ₗ String := toLex (entry.1.rank, entry.2)

theorem before_iff (ha : a.1 ≠ .nan) (hb : b.1 ≠ .nan) :
    before a b = true ↔ place a ≤ place b := by
  rw [before, place, place, Prod.Lex.toLex_le_toLex, Bool.or_eq_true, Bool.and_eq_true,
    Bool.not_eq_true', ← Bool.not_eq_true, Double.lt_iff ha hb, Double.lt_iff hb ha,
    decide_eq_true_iff, not_lt]
  constructor
  · rintro (hlt | ⟨hle, htext⟩)
    · exact .inl hlt
    · exact hle.lt_or_eq.imp_right fun heq => ⟨heq, htext⟩
  · rintro (hlt | ⟨heq, htext⟩)
    · exact .inl hlt
    · exact .inr ⟨heq.le, htext⟩

/-- The entries stand in order. -/
def Ordered (schedule : Schedule) : Prop := schedule.Pairwise fun a b => place a ≤ place b

/-- The entries in order. -/
def inOrder (entries : Schedule) : Schedule :=
  entries.mergeSort fun a b => place a ≤ place b

theorem Ordered.insert (h : Ordered schedule) (hentry : entry.1 ≠ .nan)
    (hschedule : ∀ other ∈ schedule, other.1 ≠ .nan) : Ordered (insert entry schedule) := by
  induction schedule with
  | nil => exact List.pairwise_singleton _ _
  | cons other rest ih =>
      obtain ⟨hfirst, hrest⟩ := List.pairwise_cons.mp h
      have hother := hschedule other List.mem_cons_self
      have hbefore := before_iff hentry hother
      rw [Schedule.insert]
      split
      next hle =>
        refine List.pairwise_cons.mpr ⟨fun later hlater => ?_, h⟩
        rcases List.mem_cons.mp hlater with rfl | hlater
        · exact hbefore.mp hle
        · exact (hbefore.mp hle).trans (hfirst later hlater)
      next hlt =>
        have hle : place other ≤ place entry := (not_le.mp fun hle => hlt (hbefore.mpr hle)).le
        refine List.pairwise_cons.mpr ⟨fun later hlater => ?_, ih hrest fun later hlater =>
          hschedule later (List.mem_cons_of_mem other hlater)⟩
        rcases List.mem_cons.mp ((Board.perm_insert entry rest).mem_iff.mp hlater) with rfl | hlater
        · exact hle
        · exact hfirst later hlater

theorem ordered_inOrder (entries : Schedule) : Ordered (inOrder entries) := by
  have htrans : ∀ a b c : Double × String, decide (place a ≤ place b) = true →
      decide (place b ≤ place c) = true → decide (place a ≤ place c) = true := by
    simp only [decide_eq_true_iff]
    exact fun a b c hab hbc => hab.trans hbc
  have htotal : ∀ a b : Double × String,
      (decide (place a ≤ place b) || decide (place b ≤ place a)) = true := by
    simp only [Bool.or_eq_true, decide_eq_true_iff]
    exact fun a b => le_total (place a) (place b)
  exact (List.pairwise_mergeSort htrans htotal entries).imp of_decide_eq_true

theorem perm_inOrder (entries : Schedule) : (inOrder entries).Perm entries :=
  List.mergeSort_perm _ _

/-- Entries that stand in order bring their texts in one order only. -/
theorem Ordered.texts_eq (h : Ordered schedule) (hperm : schedule.Perm entries) :
    schedule.map Prod.snd = (inOrder entries).map Prod.snd := by
  have hplaces : schedule.map place = (inOrder entries).map place := by
    apply List.Perm.eq_of_pairwise (fun a b _ _ hab hba => le_antisymm hab hba)
    · exact List.pairwise_map.mpr h
    · exact List.pairwise_map.mpr (ordered_inOrder entries)
    · exact (hperm.trans (perm_inOrder entries).symm).map place
  have htexts := congrArg (List.map fun p => (ofLex p).2) hplaces
  rwa [List.map_map, List.map_map] at htexts

end CaseWorkflow.Schedule
