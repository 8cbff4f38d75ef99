import CaseWorkflow.Fault
import CaseWorkflow.Journal

/-!
# Attempts

An attempt works on a state.  It ends with a result or a fault, and leaves the
state as far as it came and the notes that it made on the way in both cases.
-/

namespace CaseWorkflow

structure Outcome (σ α : Type) where
  result : Except Fault α
  state : σ
  notes : List Note

def Attempt (σ α : Type) : Type := σ → Outcome σ α

namespace Attempt

variable {σ τ α β : Type}

def run (attempt : Attempt σ α) (state : σ) : Outcome σ α := attempt state

protected def pure (a : α) : Attempt σ α := fun state => ⟨.ok a, state, []⟩

protected def bind (attempt : Attempt σ α) (next : α → Attempt σ β) : Attempt σ β := fun state =>
  let first := attempt state
  match first.result with
  | .error fault => ⟨.error fault, first.state, first.notes⟩
  | .ok a =>
    let second := next a first.state
    ⟨second.result, second.state, first.notes ++ second.notes⟩

instance : Monad (Attempt σ) where
  pure := Attempt.pure
  bind := Attempt.bind

def fail (fault : Fault) : Attempt σ α := fun state => ⟨.error fault, state, []⟩

/-- Goes on only if there is no fault. -/
def ofExcept (result : Except Fault α) : Attempt σ α := fun state => ⟨result, state, []⟩

def get : Attempt σ σ := fun state => ⟨.ok state, state, []⟩

def set (state : σ) : Attempt σ Unit := fun _ => ⟨.ok (), state, []⟩

def modify (f : σ → σ) : Attempt σ Unit := fun state => ⟨.ok (), f state, []⟩

def note (writer : Writer) (level : Level) (message : String) : Attempt σ Unit := fun state =>
  ⟨.ok (), state, [⟨writer, level, message⟩]⟩

/-- Makes the attempt and hands its end over, be it a result or a fault. -/
def guarded (attempt : Attempt σ α) : Attempt σ (Except Fault α) := fun state =>
  let first := attempt state
  ⟨.ok first.result, first.state, first.notes⟩

/-- Makes an attempt on a part of the state. -/
def on (part : σ → τ) (put : τ → σ → σ) (attempt : Attempt τ α) : Attempt σ α := fun state =>
  let first := attempt (part state)
  ⟨first.result, put first.state state, first.notes⟩

@[simp] theorem run_pure (a : α) (state : σ) :
    (pure a : Attempt σ α).run state = ⟨.ok a, state, []⟩ := rfl

@[simp] theorem run_fail (fault : Fault) (state : σ) :
    (fail fault : Attempt σ α).run state = ⟨.error fault, state, []⟩ := rfl

@[simp] theorem run_get (state : σ) : (get : Attempt σ σ).run state = ⟨.ok state, state, []⟩ := rfl

@[simp] theorem run_modify (f : σ → σ) (state : σ) :
    (modify f).run state = ⟨.ok (), f state, []⟩ := rfl

@[simp] theorem run_note (writer : Writer) (level : Level) (message : String) (state : σ) :
    (note writer level message).run state = ⟨.ok (), state, [⟨writer, level, message⟩]⟩ := rfl

theorem run_bind_of_ok {attempt : Attempt σ α} {next : α → Attempt σ β} {state : σ} {a : α}
    (h : (attempt.run state).result = .ok a) :
    (attempt >>= next).run state =
      ⟨((next a).run (attempt.run state).state).result,
        ((next a).run (attempt.run state).state).state,
        (attempt.run state).notes ++ ((next a).run (attempt.run state).state).notes⟩ := by
  unfold run at h
  simp [run, Bind.bind, Attempt.bind, h]

theorem run_bind_of_error {attempt : Attempt σ α} {next : α → Attempt σ β} {state : σ}
    {fault : Fault} (h : (attempt.run state).result = .error fault) :
    (attempt >>= next).run state =
      ⟨.error fault, (attempt.run state).state, (attempt.run state).notes⟩ := by
  unfold run at h
  simp [run, Bind.bind, Attempt.bind, h]

end Attempt

end CaseWorkflow
