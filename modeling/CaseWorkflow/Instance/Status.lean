import CaseWorkflow.Vocabulary

/-!
# The life of an instance

An activated workflow is paused and resumed at will, and removed from either
state for good.
-/

namespace CaseWorkflow

inductive Status where
  | active
  | inactive
  | removed
  deriving DecidableEq

instance : Vocabulary Status where
  title := "InstanceStatus"
  members := [.active, .inactive, .removed]
  wire
    | .active => "active"
    | .inactive => "inactive"
    | .removed => "removed"
  label
    | .active => "ACTIVE"
    | .inactive => "INACTIVE"
    | .removed => "REMOVED"

namespace Status

/-- Whether a state may follow another one. -/
def allows : Status → Status → Bool
  | .active, .inactive => true
  | .inactive, .active => true
  | .active, .removed => true
  | .inactive, .removed => true
  | _, _ => false

/-- No state follows. -/
def isTerminal : Status → Bool
  | .removed => true
  | _ => false

/-- A step that is not allowed. -/
structure BadStep where
  source : Status
  target : Status
  deriving DecidableEq

def BadStep.message (step : BadStep) : String :=
  s!"Invalid transition from {Vocabulary.wire step.source} to {Vocabulary.wire step.target}"

def step (source target : Status) : Except BadStep Status :=
  if source.allows target then .ok target else .error ⟨source, target⟩

/-- The state after pausing or resuming. -/
def toggled (s : Status) : Except BadStep Status :=
  s.step (if s = .active then .inactive else .active)

theorem isTerminal_iff (s : Status) : s.isTerminal = true ↔ ∀ t, s.allows t = false := by
  cases s
  · exact ⟨fun h => by simp [isTerminal] at h, fun h => by simpa [allows] using h .inactive⟩
  · exact ⟨fun h => by simp [isTerminal] at h, fun h => by simpa [allows] using h .active⟩
  · exact ⟨fun _ t => by cases t <;> rfl, fun _ => rfl⟩

end Status

end CaseWorkflow
