import CaseWorkflow.Attempt
import Mathlib.Tactic

/-!
# What attempts come to

An attempt is followed step by step: what a step gives, or what is known of its end, is
handed on to the steps behind it.  The notes are left out of account.
-/

namespace CaseWorkflow.Attempt

variable {σ τ α β : Type}

/-- The attempt comes to this result and leaves this state. -/
def Gives (attempt : Attempt σ α) (s : σ) (result : Except Fault α) (t : σ) : Prop :=
  (attempt.run s).result = result ∧ (attempt.run s).state = t

/-- What the attempt comes to and the state that it leaves are as asked for. -/
def Ends (attempt : Attempt σ α) (s : σ) (Q : Except Fault α → σ → Prop) : Prop :=
  Q (attempt.run s).result (attempt.run s).state

theorem toOption_eq_some_iff {ε : Type} {result : Except ε α} {a : α} :
    result.toOption = some a ↔ result = .ok a := by
  cases result with
  | error e => simp [Except.toOption]
  | ok other => simp [Except.toOption]

section Steps

variable {s t u : σ} {a : α} {fault : Fault}

theorem gives_pure (a : α) (s : σ) : (pure a : Attempt σ α).Gives s (.ok a) s := ⟨rfl, rfl⟩

theorem gives_fail (fault : Fault) (s : σ) :
    (fail fault : Attempt σ α).Gives s (.error fault) s := ⟨rfl, rfl⟩

theorem gives_ofExcept (result : Except Fault α) (s : σ) : (ofExcept result).Gives s result s :=
  ⟨rfl, rfl⟩

theorem gives_get (s : σ) : (get : Attempt σ σ).Gives s (.ok s) s := ⟨rfl, rfl⟩

theorem gives_set (s t : σ) : (set t).Gives s (.ok ()) t := ⟨rfl, rfl⟩

theorem gives_modify (f : σ → σ) (s : σ) : (modify f).Gives s (.ok ()) (f s) := ⟨rfl, rfl⟩

theorem gives_note (writer : Writer) (level : Level) (message : String) (s : σ) :
    (note writer level message).Gives s (.ok ()) s := ⟨rfl, rfl⟩

theorem Gives.bind_ok {attempt : Attempt σ α} {next : α → Attempt σ β} {result : Except Fault β}
    (h : attempt.Gives s (.ok a) t) (hnext : (next a).Gives t result u) :
    (attempt >>= next).Gives s result u := by
  obtain ⟨hresult, rfl⟩ := h
  rw [Gives, run_bind_of_ok hresult]
  exact hnext

theorem Gives.bind_error {attempt : Attempt σ α} {next : α → Attempt σ β}
    (h : attempt.Gives s (.error fault) t) : (attempt >>= next).Gives s (.error fault) t := by
  obtain ⟨hresult, rfl⟩ := h
  rw [Gives, run_bind_of_error hresult]
  exact ⟨rfl, rfl⟩

theorem Gives.ends {attempt : Attempt σ α} {result : Except Fault α}
    {Q : Except Fault α → σ → Prop} (h : attempt.Gives s result t) (hq : Q result t) :
    attempt.Ends s Q := by
  obtain ⟨rfl, rfl⟩ := h
  exact hq

theorem Ends.gives {attempt : Attempt σ α} {result : Except Fault α} {P : σ → Prop}
    (h : attempt.Ends s fun answer t => answer = result ∧ P t) :
    ∃ t, attempt.Gives s result t ∧ P t :=
  ⟨_, ⟨h.1, rfl⟩, h.2⟩

theorem Ends.mono {attempt : Attempt σ α} {P Q : Except Fault α → σ → Prop}
    (h : attempt.Ends s P) (hpq : ∀ result t, P result t → Q result t) : attempt.Ends s Q :=
  hpq _ _ h

theorem Ends.and {attempt : Attempt σ α} {P Q : Except Fault α → σ → Prop}
    (h : attempt.Ends s P) (h' : attempt.Ends s Q) :
    attempt.Ends s fun result t => P result t ∧ Q result t :=
  ⟨h, h'⟩

theorem Ends.bind {attempt : Attempt σ α} {next : α → Attempt σ β}
    {P : Except Fault α → σ → Prop} {Q : Except Fault β → σ → Prop} (h : attempt.Ends s P)
    (herror : ∀ fault t, P (.error fault) t → Q (.error fault) t)
    (hok : ∀ a t, P (.ok a) t → (next a).Ends t Q) : (attempt >>= next).Ends s Q := by
  unfold Ends at h ⊢
  cases hresult : (attempt.run s).result with
  | error fault =>
      rw [run_bind_of_error hresult]
      rw [hresult] at h
      exact herror fault _ h
  | ok a =>
      rw [run_bind_of_ok hresult]
      rw [hresult] at h
      exact hok a _ h

theorem Ends.bind_ok {attempt : Attempt σ α} {next : α → Attempt σ β}
    {Q : Except Fault β → σ → Prop} (h : attempt.Gives s (.ok a) t) (hnext : (next a).Ends t Q) :
    (attempt >>= next).Ends s Q := by
  obtain ⟨hresult, rfl⟩ := h
  rw [Ends, run_bind_of_ok hresult]
  exact hnext

theorem Ends.bind_error {attempt : Attempt σ α} {next : α → Attempt σ β}
    {Q : Except Fault β → σ → Prop} (h : attempt.Gives s (.error fault) t)
    (hq : Q (.error fault) t) : (attempt >>= next).Ends s Q :=
  h.bind_error.ends hq

theorem ofExcept_ok_bind (a : α) (next : α → Attempt σ β) :
    ofExcept (.ok a) >>= next = next a :=
  rfl

theorem ofExcept_error_bind (fault : Fault) (next : α → Attempt σ β) :
    ofExcept (.error fault) >>= next = ofExcept (.error fault) :=
  rfl

/-- The notes of two steps come one after the other. -/
theorem run_bind_of_run {attempt : Attempt σ α} {next : α → Attempt σ β}
    {result : Except Fault β} {notes more : List Note} (h : attempt.run s = ⟨.ok a, t, notes⟩)
    (hnext : (next a).run t = ⟨result, u, more⟩) :
    (attempt >>= next).run s = ⟨result, u, notes ++ more⟩ := by
  rw [run_bind_of_ok (by rw [h]), h, hnext]

theorem run_get_bind (next : σ → Attempt σ β) (s : σ) :
    (get >>= next).run s = (next s).run s := rfl

theorem run_bind_congr {attempt twin : Attempt σ α} {next : α → Attempt σ β}
    (h : attempt.run s = twin.run s) : (attempt >>= next).run s = (twin >>= next).run s := by
  cases hresult : (twin.run s).result with
  | error fault => rw [run_bind_of_error hresult, run_bind_of_error (h ▸ hresult), h]
  | ok a => rw [run_bind_of_ok hresult, run_bind_of_ok (h ▸ hresult), h]

/-- What is done for each of a list leaves the state, if each of it does. -/
theorem gives_forM {f : α → Attempt σ Unit} (h : ∀ a, (f a).Gives s (.ok ()) s) (list : List α) :
    (list.forM f).Gives s (.ok ()) s := by
  induction list with
  | nil => exact gives_pure () s
  | cons a rest ih => exact (h a).bind_ok ih

theorem id_map_attempt (attempt : Attempt σ α) : id <$> attempt = attempt := by
  funext s
  change Attempt.bind attempt Attempt.pure s = attempt s
  unfold Attempt.bind
  generalize attempt s = outcome
  obtain ⟨result, t, notes⟩ := outcome
  cases result with
  | error fault => rfl
  | ok a => simp [Attempt.pure]

theorem bind_assoc_attempt {γ : Type} (attempt : Attempt σ α) (next : α → Attempt σ β)
    (last : β → Attempt σ γ) :
    attempt >>= next >>= last = attempt >>= fun a => next a >>= last := by
  funext s
  change Attempt.bind (Attempt.bind attempt next) last s
    = Attempt.bind attempt (fun a => Attempt.bind (next a) last) s
  unfold Attempt.bind
  generalize attempt s = outcome
  obtain ⟨result, t, notes⟩ := outcome
  cases result with
  | error fault => rfl
  | ok a =>
      dsimp only
      generalize next a t = outcome
      obtain ⟨result, u, more⟩ := outcome
      cases result with
      | error fault => rfl
      | ok b => simp

instance : LawfulMonad (Attempt σ) :=
  LawfulMonad.mk' (Attempt σ) id_map_attempt (fun _ _ => rfl) bind_assoc_attempt

/-- What is done for each of a list comes to a result for each of it, related to it in turn. -/
theorem ends_mapM_forall₂ {f : α → Attempt σ β} {R : α → β → Prop} {P : List α → σ → Prop}
    (hstep : ∀ a rest s, P (a :: rest) s →
      (f a).Ends s fun result t => ∃ b, result = .ok b ∧ R a b ∧ P rest t)
    {list : List α} (h : P list s) :
    (list.mapM f).Ends s fun result t =>
      ∃ results, result = .ok results ∧ List.Forall₂ R list results ∧ P [] t := by
  induction list generalizing s with
  | nil => exact (gives_pure [] s).ends ⟨[], rfl, .nil, h⟩
  | cons a rest ih =>
      rw [List.mapM_cons]
      apply (hstep a rest s h).bind
      · rintro fault t ⟨b, heq, -⟩
        cases heq
      rintro b t ⟨_, heq, hb, ht⟩
      obtain rfl := Except.ok.inj heq
      apply (ih ht).bind
      · rintro fault u ⟨results, heq, -⟩
        cases heq
      rintro results u ⟨_, heq, hresults, hu⟩
      obtain rfl := Except.ok.inj heq
      exact (gives_pure _ u).ends ⟨_, rfl, .cons hb hresults, hu⟩

/-- What is done for each of a list comes to what each of it comes to. -/
theorem ends_mapM {f : α → Attempt σ β} {g : α → β} {P : List α → σ → Prop}
    (hstep : ∀ a rest s, P (a :: rest) s →
      (f a).Ends s fun result t => result = .ok (g a) ∧ P rest t)
    {list : List α} (h : P list s) :
    (list.mapM f).Ends s fun result t => result = .ok (list.map g) ∧ P [] t := by
  have hall := ends_mapM_forall₂ (R := fun a b => g a = b) (fun a rest s hs =>
    (hstep a rest s hs).mono fun result t ht => ⟨g a, ht.1, rfl, ht.2⟩) h
  apply hall.mono
  rintro result t ⟨results, rfl, hresults, ht⟩
  have heq : list.map g = results := by
    rw [← List.forall₂_eq_eq_eq]
    exact List.forall₂_map_left_iff.mpr hresults
  exact ⟨congrArg Except.ok heq.symm, ht⟩

/-- What each of a list keeps is kept by all. -/
theorem ends_mapM_of_keeps {f : α → Attempt σ β} {P : σ → Prop}
    (hstep : ∀ a s, P s → (f a).Ends s fun _ t => P t) (list : List α) (h : P s) :
    (list.mapM f).Ends s fun _ t => P t := by
  induction list generalizing s with
  | nil => exact (gives_pure [] s).ends h
  | cons a rest ih =>
      rw [List.mapM_cons]
      apply (hstep a s h).bind
      · exact fun fault t ht => ht
      intro b t ht
      apply (ih ht).bind
      · exact fun fault u hu => hu
      · exact fun list u hu => (gives_pure _ u).ends hu

/-- Where two steps run alike in all states that both keep, rows of them run alike. -/
theorem run_mapM_congr {f g : α → Attempt σ β} {P : σ → Prop}
    (hsame : ∀ a s, P s → (f a).run s = (g a).run s)
    (hkeep : ∀ a s, P s → (g a).Ends s fun _ t => P t) (list : List α) (h : P s) :
    (list.mapM f).run s = (list.mapM g).run s := by
  induction list generalizing s with
  | nil => rfl
  | cons a rest ih =>
      rw [List.mapM_cons, List.mapM_cons, run_bind_congr (hsame a s h)]
      have hrest := hkeep a s h
      unfold Ends at hrest
      cases hresult : ((g a).run s).result with
      | error fault => rw [run_bind_of_error hresult, run_bind_of_error hresult]
      | ok b => rw [run_bind_of_ok hresult, run_bind_of_ok hresult, run_bind_congr (ih hrest)]

theorem Gives.guarded {attempt : Attempt σ α} {result : Except Fault α}
    (h : attempt.Gives s result t) : (Attempt.guarded attempt).Gives s (.ok result) t :=
  ⟨congrArg Except.ok h.1, h.2⟩

theorem Ends.guarded {attempt : Attempt σ α} {P : Except Fault α → σ → Prop}
    (h : attempt.Ends s P) :
    (Attempt.guarded attempt).Ends s fun result t => ∃ inner, result = .ok inner ∧ P inner t :=
  ⟨_, rfl, h⟩

end Steps

/-- Whatever the attempt comes to, the state that it leaves stands to the one before as asked
for. -/
def Preserves (R : σ → σ → Prop) (attempt : Attempt σ α) : Prop :=
  ∀ s, attempt.Ends s fun _ t => R s t

section Preserves

variable {R : σ → σ → Prop} [IsPreorder σ R]

theorem preserves_pure (a : α) : (pure a : Attempt σ α).Preserves R := fun s => refl_of R s

theorem preserves_fail (fault : Fault) : (fail fault : Attempt σ α).Preserves R :=
  fun s => refl_of R s

theorem preserves_ofExcept (result : Except Fault α) :
    (ofExcept result : Attempt σ α).Preserves R := fun s => refl_of R s

theorem preserves_get : (get : Attempt σ σ).Preserves R := fun s => refl_of R s

theorem preserves_note (writer : Writer) (level : Level) (message : String) :
    (note writer level message : Attempt σ Unit).Preserves R := fun s => refl_of R s

omit [IsPreorder σ R] in
theorem preserves_modify {f : σ → σ} (h : ∀ s, R s (f s)) : (modify f).Preserves R := h

theorem Preserves.bind {attempt : Attempt σ α} {next : α → Attempt σ β}
    (h : attempt.Preserves R) (hnext : ∀ a, (next a).Preserves R) :
    (attempt >>= next).Preserves R := by
  intro s
  apply (h s).bind
  · exact fun fault t ht => ht
  · exact fun a t ht => (hnext a t).mono fun result u hu => trans_of R ht hu

/-- What follows a step may depend on the state that the step leaves. -/
theorem Preserves.bind_ends {attempt : Attempt σ α} {next : α → Attempt σ β} {s : σ}
    {P : α → σ → Prop} (h : attempt.Ends s fun result t => R s t ∧ ∀ a, result = .ok a → P a t)
    (hnext : ∀ a t, P a t → (next a).Ends t fun _ u => R t u) :
    (attempt >>= next).Ends s fun _ u => R s u := by
  apply h.bind
  · exact fun fault t ht => ht.1
  · exact fun a t ht => (hnext a t (ht.2 a rfl)).mono fun result u hu => trans_of R ht.1 hu

end Preserves

/-- What holds of the first state holds of the second. -/
def Keeping (P : σ → Prop) (s t : σ) : Prop := P s → P t

instance {P : σ → Prop} : IsPreorder σ (Keeping P) where
  refl _ h := h
  trans _ _ _ h h' hp := h' (h hp)

section Keeping

variable {P : σ → Prop} {attempt : Attempt σ α}

/-- To keep what holds it is enough to keep it where it does. -/
theorem preserves_keeping (h : ∀ s, P s → attempt.Ends s fun _ t => P t) :
    attempt.Preserves (Keeping P) := by
  intro s
  by_cases hp : P s
  · exact (h s hp).mono fun result t ht _ => ht
  · exact fun hp' => absurd hp' hp

theorem Preserves.guarded (h : attempt.Preserves (Keeping P)) :
    (Attempt.guarded attempt).Preserves (Keeping P) := h

theorem preserves_forM {f : α → Attempt σ Unit} (h : ∀ a, (f a).Preserves (Keeping P))
    (list : List α) : (list.forM f).Preserves (Keeping P) := by
  induction list with
  | nil => exact preserves_pure ()
  | cons a rest ih => exact (h a).bind fun _ => ih

end Keeping

/-- The attempt comes to one result, whatever state it is made in. -/
def Steady (attempt : Attempt σ α) (a : α) : Prop := ∀ s, (attempt.run s).result = .ok a

section Steady

variable {a : α} {b : β}

theorem steady_pure (a : α) : (pure a : Attempt σ α).Steady a := fun _ => rfl

theorem steady_note (writer : Writer) (level : Level) (message : String) :
    (note writer level message : Attempt σ Unit).Steady () := fun _ => rfl

theorem steady_ofExcept (a : α) : (ofExcept (.ok a) : Attempt σ α).Steady a := fun _ => rfl

theorem Steady.bind {attempt : Attempt σ α} {next : α → Attempt σ β} (h : attempt.Steady a)
    (hnext : (next a).Steady b) : (attempt >>= next).Steady b := by
  intro s
  rw [run_bind_of_ok (h s)]
  exact hnext _

end Steady

/-- Whatever state it is made in, the attempt comes to a result that is as asked for. -/
def Succeeds (attempt : Attempt σ α) (Q : α → Prop) : Prop :=
  ∀ s, ∃ a, (attempt.run s).result = .ok a ∧ Q a

section Succeeds

variable {a : α} {P : α → Prop} {Q : β → Prop}

theorem succeeds_pure (h : P a) : (pure a : Attempt σ α).Succeeds P := fun _ => ⟨a, rfl, h⟩

theorem succeeds_note (writer : Writer) (level : Level) (message : String) :
    (note writer level message : Attempt σ Unit).Succeeds fun _ => True :=
  fun _ => ⟨(), rfl, trivial⟩

theorem succeeds_get : (get : Attempt σ σ).Succeeds fun _ => True := fun s => ⟨s, rfl, trivial⟩

theorem succeeds_ofExcept (h : P a) : (ofExcept (.ok a) : Attempt σ α).Succeeds P :=
  fun _ => ⟨a, rfl, h⟩

theorem Succeeds.bind {attempt : Attempt σ α} {next : α → Attempt σ β} (h : attempt.Succeeds P)
    (hnext : ∀ a, P a → (next a).Succeeds Q) : (attempt >>= next).Succeeds Q := by
  intro s
  obtain ⟨a, ha, hp⟩ := h s
  rw [run_bind_of_ok ha]
  exact hnext a hp _

/-- What succeeds for each succeeds for all of a list. -/
theorem succeeds_mapM {f : α → Attempt σ β} (h : ∀ a, (f a).Succeeds fun _ => True)
    (list : List α) : (list.mapM f).Succeeds fun _ => True := by
  induction list with
  | nil => exact succeeds_pure trivial
  | cons a rest ih =>
      rw [List.mapM_cons]
      apply (h a).bind
      intro b _
      exact ih.bind fun _ _ => succeeds_pure trivial

end Succeeds

theorem Gives.on {part : σ → τ} {put : τ → σ → σ} {attempt : Attempt τ α} {s : σ} {t : τ}
    {result : Except Fault α} (h : attempt.Gives (part s) result t) :
    (Attempt.on part put attempt).Gives s result (put t s) :=
  ⟨h.1, congrArg (put · s) h.2⟩

/-- An attempt on a part of the state. -/
theorem Ends.on {part : σ → τ} {put : τ → σ → σ} {attempt : Attempt τ α} {s : σ}
    {P : Except Fault α → τ → Prop} (h : attempt.Ends (part s) P) :
    (Attempt.on part put attempt).Ends s
      fun result t => ∃ inner, t = put inner s ∧ P result inner :=
  ⟨_, rfl, h⟩

end CaseWorkflow.Attempt
