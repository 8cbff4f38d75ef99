import Mathlib.Data.List.Forall2

/-!
# Steps that may fail

One step after another comes to a result if both do.  A row is gone through item by item and
comes to a row of results, or stops at the first item that fails.
-/

namespace CaseWorkflow

variable {α β ε : Type}

theorem bind_eq_ok {first : Except ε α} {next : α → Except ε β} {b : β}
    (h : first >>= next = .ok b) : ∃ a, first = .ok a ∧ next a = .ok b := by
  cases first with
  | error e => cases h
  | ok a => exact ⟨a, rfl, h⟩

/-- A row comes to results, or fails as the first item that fails. -/
theorem mapM_foremost (f : α → Except ε β) (row : List α) :
    (∃ results, row.mapM f = .ok results ∧ ∀ a ∈ row, ∃ b, f a = .ok b) ∨
      ∃ (position : ℕ) (a : α) (error : ε), row[position]? = some a ∧ f a = .error error ∧
        row.mapM f = .error error ∧
        ∀ earlier < position, ∀ other, row[earlier]? = some other → ∃ b, f other = .ok b := by
  induction row with
  | nil => exact .inl ⟨[], rfl, by simp⟩
  | cons first rest ih =>
      rw [List.mapM_cons]
      cases hfirst : f first with
      | error error =>
          refine .inr ⟨0, first, error, rfl, hfirst, rfl, ?_⟩
          intro earlier hearlier
          exact absurd hearlier (Nat.not_lt_zero earlier)
      | ok b =>
          rcases ih with ⟨results, hrow, hall⟩ | ⟨position, a, error, ha, hfails, hrow, hbefore⟩
          · rw [hrow]
            exact .inl ⟨b :: results, rfl, List.forall_mem_cons.mpr ⟨⟨b, hfirst⟩, hall⟩⟩
          · rw [hrow]
            refine .inr ⟨position + 1, a, error, ha, hfails, rfl, ?_⟩
            intro earlier hearlier other hother
            cases earlier with
            | zero =>
                obtain rfl := Option.some.inj hother
                exact ⟨b, hfirst⟩
            | succ earlier => exact hbefore earlier (Nat.lt_of_succ_lt_succ hearlier) other hother

/-- A row comes to results if each of it does, and else fails as one of it does. -/
theorem mapM_cases (f : α → Except ε β) (row : List α) :
    (∃ results, row.mapM f = .ok results ∧ ∀ a ∈ row, ∃ b, f a = .ok b) ∨
      ∃ error, row.mapM f = .error error ∧ ∃ a ∈ row, f a = .error error := by
  rcases mapM_foremost f row with hall | ⟨position, a, error, ha, hfails, hrow, -⟩
  · exact .inl hall
  · exact .inr ⟨error, hrow, a, List.mem_of_getElem? ha, hfails⟩

theorem forall₂_of_mapM {f : α → Except ε β} {row : List α} {results : List β}
    (h : row.mapM f = .ok results) : List.Forall₂ (fun a b => f a = .ok b) row results := by
  induction row generalizing results with
  | nil =>
      obtain rfl := Except.ok.inj h
      exact .nil
  | cons first rest ih =>
      rw [List.mapM_cons] at h
      obtain ⟨b, hfirst, h⟩ := bind_eq_ok h
      obtain ⟨more, hrest, h⟩ := bind_eq_ok h
      obtain rfl := Except.ok.inj h
      exact .cons hfirst (ih hrest)

/-- Each result stems from an item. -/
theorem exists_of_mapM {f : α → Except ε β} {row : List α} {results : List β}
    (h : row.mapM f = .ok results) : ∀ b ∈ results, ∃ a ∈ row, f a = .ok b := by
  have hpairs := forall₂_of_mapM h
  clear h
  induction hpairs with
  | nil => simp
  | cons hfirst _ ih =>
      intro b hb
      rcases List.mem_cons.mp hb with rfl | hb
      · exact ⟨_, List.mem_cons_self, hfirst⟩
      · obtain ⟨a, ha, hfa⟩ := ih b hb
        exact ⟨a, List.mem_cons_of_mem _ ha, hfa⟩

theorem mapM_eq_map {f : α → Except ε β} {g : α → β} {row : List α}
    (h : ∀ a ∈ row, f a = .ok (g a)) : row.mapM f = .ok (row.map g) := by
  induction row with
  | nil => rfl
  | cons first rest ih =>
      obtain ⟨hfirst, hrest⟩ := List.forall_mem_cons.mp h
      rw [List.mapM_cons, hfirst, ih hrest]
      rfl

end CaseWorkflow
