import CaseWorkflow.Value.Text

/-!
# Vocabularies

The closed sets of words by which definitions, events and answers name things.
A member has a text of its own on the wire and a label.  Host code may also hold
a member where data would hold its text, and data may hold any value there.
-/

namespace CaseWorkflow

class Vocabulary (α : Type) where
  title : String
  members : List α
  wire : α → String
  label : α → String

namespace Vocabulary

variable {α : Type} [Vocabulary α]

/-- The member whose wire text a value is. -/
def find? (v : Value) : Option α :=
  v.text?.bind fun s => members.find? fun member => wire member == s

/-- The text that stands for a member. -/
def value (member : α) : Value := .text (wire member)

def asMember (member : α) : Value := .member ⟨title α, label member, wire member⟩

end Vocabulary

/-- A member of a vocabulary, or a value that stands in the place of one. -/
inductive Named (α : Type) where
  | known (member : α)
  | other (value : Value)

namespace Named

variable {α : Type} [Vocabulary α]

/-- A value read as a member where it names one. -/
def of (v : Value) : Named α :=
  match Vocabulary.find? v with
  | some member => .known member
  | none => .other v

def known? : Named α → Option α
  | .known member => some member
  | .other _ => none

def value : Named α → Value
  | .known member => Vocabulary.value member
  | .other v => v

/-- The value that no vocabulary has as a member, if it is one. -/
def unnamed? : Named α → Option Value
  | .other (.member _) => none
  | .other v => some v
  | .known _ => none

end Named

end CaseWorkflow
