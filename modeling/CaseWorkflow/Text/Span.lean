/-!
# Spans of code points

A character class is a list of spans, both ends included.
-/

namespace CaseWorkflow.Text

/-- The code points from the first component to the second. -/
abbrev Span := Nat × Nat

/-- Whether some span of the list holds the character. -/
def covered (spans : List Span) (c : Char) : Bool :=
  spans.any fun span => span.1 ≤ c.toNat && c.toNat ≤ span.2

theorem covered_eq_true_iff {spans : List Span} {c : Char} :
    covered spans c = true ↔ ∃ span ∈ spans, span.1 ≤ c.toNat ∧ c.toNat ≤ span.2 := by
  simp [covered]

end CaseWorkflow.Text
