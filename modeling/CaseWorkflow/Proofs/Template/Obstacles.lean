import CaseWorkflow.Proofs.Rows
import CaseWorkflow.Proofs.Template.Unknown

/-!
# Obstacles to rendering

Only an index or a format can ask of a value what its kind or its size does not permit.  Whatever
else is wrong with a template, or is missing from the data, leaves the text as it is.
-/

namespace CaseWorkflow

namespace Template

/-- The outcome is a result or leaves the text as it is. -/
def Mild {α : Type} (outcome : Except Obstacle α) : Prop :=
  ∀ obstacle, outcome = .error obstacle → obstacle = .malformed

section Mild

variable {α β : Type}

theorem mild_ok (a : α) : Mild (.ok a : Except Obstacle α) := nofun

theorem mild_malformed : Mild (.error .malformed : Except Obstacle α) := by
  intro obstacle h
  cases h
  rfl

theorem Mild.bind {outcome : Except Obstacle α} {next : α → Except Obstacle β}
    (h : Mild outcome) (hnext : ∀ a, Mild (next a)) : Mild (outcome >>= next) := by
  cases outcome with
  | ok a => exact hnext a
  | error obstacle =>
      rw [h obstacle rfl]
      exact mild_malformed

theorem mild_mapM {f : α → Except Obstacle β} {row : List α} (h : ∀ a ∈ row, Mild (f a)) :
    Mild (row.mapM f) := by
  intro obstacle hobstacle
  rcases mapM_cases f row with ⟨results, hok, -⟩ | ⟨error, herror, a, ha, hfails⟩
  · rw [hok] at hobstacle
    cases hobstacle
  · rw [herror] at hobstacle
    cases hobstacle
    exact h a ha _ hfails

end Mild

/-! ## Names without indices -/

theorem mild_position (name : List Char) : Mild (position name) := by
  unfold position
  split
  · exact mild_ok none
  · exact fun obstacle => positionAfter_error

theorem Subject.mild_member (subject : Subject) (name : String) : Mild (subject.member name) := by
  unfold member
  cases subject.feature? name with
  | some feature => exact mild_ok feature
  | none => exact mild_malformed

/-- Without an index the next step is to an attribute, and leaves less of the name. -/
theorem nextStep_of_no_index {name : List Char} (h : '[' ∉ name) :
    nextStep name = .finish ∨ nextStep name = .flawed ∨
      ∃ part n, nextStep name = .step (.member part) (name.drop n) := by
  unfold nextStep
  split
  · exact .inl rfl
  · dsimp only
    split
    · exact .inr (.inl rfl)
    · exact .inr (.inr ⟨_, _ + 1, rfl⟩)
  · simp at h
  · exact .inr (.inl rfl)

theorem mild_follow {name : List Char} (h : '[' ∉ name) (fuel : ℕ) (subject : Subject) :
    Mild (follow fuel subject name) := by
  induction fuel generalizing name subject with
  | zero => exact mild_ok subject
  | succ fuel ih =>
      rw [follow]
      rcases nextStep_of_no_index h with hend | hflawed | ⟨part, n, hstep⟩
      · rw [hend]
        exact mild_ok subject
      · rw [hflawed]
        exact mild_malformed
      · rw [hstep]
        have hrest : '[' ∉ name.drop n := fun hmem => h (List.mem_of_mem_drop hmem)
        exact (subject.mild_member (String.ofList part)).bind fun next => ih hrest next

theorem mild_resolve (data : Entries) {name : List Char} (h : '[' ∉ name) :
    Mild (resolve data name) := by
  unfold resolve
  apply (mild_position _).bind
  intro index
  split
  · exact mild_malformed
  · exact mild_follow (fun hmem => h (List.mem_of_mem_drop hmem)) _ _

/-! ## Fields without formats -/

theorem mild_convert (subject : Subject) (conversion : Option Char) :
    Mild (convert subject conversion) := by
  unfold convert
  split
  · exact mild_ok subject
  · split_ifs
    · exact mild_ok _
    · exact mild_ok _
    · exact mild_ok _
    · exact mild_ok subject
    · exact mild_malformed

theorem lay_nil (subject : Subject) : lay subject [] = .ok subject.plainText.toList := by
  cases subject <;> rfl

/-- The field has no index in its name and no format. -/
def Field.Undemanding (field : Field) : Prop := '[' ∉ field.name ∧ field.format = []

instance (field : Field) : Decidable field.Undemanding := inferInstanceAs (Decidable (_ ∧ _))

theorem Piece.mild_rendered (data : Entries) (levels : ℕ) {piece : Piece}
    (h : ∀ field ∈ piece.field, field.Undemanding) :
    Mild (piece.rendered data (levels + 1)) := by
  unfold rendered
  cases hfield : piece.field with
  | none => exact mild_ok piece.literal
  | some field =>
      obtain ⟨hname, hformat⟩ := h field hfield
      have hempty : renderChars data (levels + 1) field.format = .ok [] := by
        rw [hformat]
        rfl
      apply (mild_resolve data hname).bind
      intro subject
      apply (mild_convert subject field.conversion).bind
      intro subject
      rw [hempty]
      change Mild (lay subject [] >>= _)
      rw [lay_nil]
      exact mild_ok _

/-! ## Texts -/

/-- No field of the text has an index in its name, or a format. -/
def Undemanding (text : String) : Prop :=
  ∀ piece ∈ (Markup.of text.toList).pieces, ∀ field ∈ piece.field, field.Undemanding

instance (text : String) : Decidable (Undemanding text) :=
  inferInstanceAs (Decidable (∀ piece ∈ (Markup.of text.toList).pieces, _))

theorem mild_renderChars (data : Entries) (levels : ℕ) {text : String} (h : Undemanding text) :
    Mild (renderChars data (levels + 2) text.toList) := by
  rw [renderChars]
  have hpieces : ∀ piece ∈ (Markup.of text.toList).pieces,
      Mild (piece.rendered data (levels + 1)) := by
    intro piece hpiece
    exact piece.mild_rendered data levels (h piece hpiece)
  apply (mild_mapM hpieces).bind
  intro parts
  split
  · exact mild_ok _
  · exact mild_malformed

/-- A template that is malformed for the data is no failure. -/
theorem render_error_ne_malformed {text : String} {data : Entries} {obstacle : Obstacle}
    (h : render text data = .error obstacle) : obstacle ≠ .malformed := by
  intro hmalformed
  subst hmalformed
  unfold render at h
  cases houtcome : renderChars data levelLimit text.toList with
  | ok cs =>
      rw [houtcome] at h
      cases h
  | error obstacle =>
      rw [houtcome] at h
      cases obstacle <;> cases h

/-- A text without indices and formats is rendered, whatever the data. -/
theorem exists_render_of_undemanding {text : String} (h : Undemanding text) (data : Entries) :
    ∃ rendered, render text data = .ok rendered := by
  have hmild := mild_renderChars data 1 h
  unfold render
  rw [levelLimit]
  cases houtcome : renderChars data (1 + 2) text.toList with
  | ok cs => exact ⟨String.ofList cs, rfl⟩
  | error obstacle =>
      rw [hmild obstacle houtcome]
      exact ⟨text, rfl⟩

end Template

end CaseWorkflow
