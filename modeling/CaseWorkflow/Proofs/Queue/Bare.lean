import CaseWorkflow.Proofs.Queue.Frame
import CaseWorkflow.Proofs.Queue.Scene

/-!
# Keys beside the places

Texts stand in the places of a queue and nowhere else.  Under any other key a run leaves marks
only.
-/

namespace CaseWorkflow

open Attempt

namespace Broker

theorem list_refreshed (b : Broker) (now : Double) (key other : String) :
    (b.refreshed now key).list other = b.list other := by
  unfold refreshed
  split <;> rfl

theorem schedule_refreshed (b : Broker) (now : Double) (key other : String) :
    (b.refreshed now key).schedule other = b.schedule other := by
  unfold refreshed
  split <;> rfl

/-- No texts stand under a key. -/
def Bare (b : Broker) (key : String) : Prop := b.list key = [] ∧ b.schedule key = []

variable {b : Broker} {key other : String}

theorem Bare.without (h : b.Bare other) (key : String) : (b.without key).Bare other := by
  by_cases heq : other = key
  · simp [Bare, list, schedule, Broker.without, Table.lookup_erase, heq]
  · exact ⟨(list_without heq).trans h.1, (schedule_without heq).trans h.2⟩

/-- Where no texts stand, there is nothing but a mark that has not ended. -/
theorem Bare.holding? (h : b.Bare key) (now : Double) :
    b.holding? now key = if b.isMarked now key then some .mark else none := by
  simp [Broker.holding?, h.1, h.2]

end Broker

namespace Queue

variable {q : Queue} {b t : Broker} {now : Double} {key : String}

/-- The keys beside the places that were bare still are. -/
def StaysBare (q : Queue) (b t : Broker) : Prop := ∀ key ∉ q.placeKeys, b.Bare key → t.Bare key

instance : IsPreorder Broker q.StaysBare where
  refl _ _ _ h := h
  trans _ _ _ h h' key hkey hbare := h' key hkey (h key hkey hbare)

theorem staysBare_refreshed (b : Broker) (now : Double) (key : String) :
    q.StaysBare b (b.refreshed now key) := fun other _ hbare =>
  ⟨(b.list_refreshed now key other).trans hbare.1, (b.schedule_refreshed now key other).trans hbare.2⟩

theorem staysBare_without (b : Broker) (key : String) : q.StaysBare b (b.without key) :=
  fun _ _ hbare => hbare.without key

theorem staysBare_withMark (b : Broker) (key : String) (stop : Double) :
    q.StaysBare b (b.withMark key stop) := fun _ _ hbare => hbare.without key

theorem keptByPlaces_staysBare (q : Queue) (now : Double) : q.KeptByPlaces now q.StaysBare where
  preorder := inferInstance
  refreshed key _ b := staysBare_refreshed b now key
  list key hkey b texts other hother hbare := by
    have hne : other ≠ key := fun heq => hother (heq ▸ mem_placeKeys_of_mem_listKeys hkey)
    exact ⟨(Broker.list_withList b key other texts).trans (if_neg hne ▸ hbare.1), hbare.2⟩
  schedule b schedule other hother hbare := by
    have hne : other ≠ q.delayed := fun heq => hother (heq ▸ mem_placeKeys_iff.mpr (.inl rfl))
    exact ⟨hbare.1, (Broker.schedule_withSchedule b q.delayed other schedule).trans
      (if_neg hne ▸ hbare.2)⟩

/-- A move brings no texts under another key than those of the places. -/
theorem staysBare_step (q : Queue) (s : Scene) (move : Move) :
    q.StaysBare s.broker (q.step s move).broker := by
  have hplaces := q.keptByPlaces_staysBare s.now
  cases move with
  | publish event delay deduplicate =>
      exact hplaces.publish (fun b => fun _ _ hbare => hbare) (fun b => staysBare_refreshed b _ _)
        (fun b stop => staysBare_withMark b _ stop) delay deduplicate s.broker
  | claim => exact hplaces.claim (fun b id stop => staysBare_withMark b _ stop) s.broker
  | complete copy =>
      simp only [Queue.step]
      split
      next => exact refl_of q.StaysBare s.broker
      next => exact hplaces.release (fun b => staysBare_without b _) s.broker
  | retry copy =>
      simp only [Queue.step]
      split
      next => exact refl_of q.StaysBare s.broker
      next => exact hplaces.retry (fun b => staysBare_without b _) s.broker
  | bury copy reason =>
      simp only [Queue.step]
      split
      next => exact refl_of q.StaysBare s.broker
      next => exact hplaces.bury (fun b => staysBare_without b _) _ s.broker
  | requeue limit =>
      exact hplaces.requeueExpired (fun b id => staysBare_refreshed b _ _)
        (fun b id => staysBare_without b _) limit s.broker
  | wait now => exact refl_of q.StaysBare s.broker

theorem bare_run (q : Queue) (start : Double) (moves : List Move) (hkey : key ∉ q.placeKeys) :
    (q.run (Scene.start start) moves).broker.Bare key := by
  induction moves using List.reverseRecOn with
  | nil => exact ⟨rfl, rfl⟩
  | append_singleton moves move ih =>
      rw [run_concat]
      exact q.staysBare_step _ move key hkey ih

end Queue

end CaseWorkflow
