import CaseWorkflow.Problem

/-!
# Conditions

One clause of a trigger: a field, an operator and a value to compare with.
-/

namespace CaseWorkflow

structure Condition where
  field : Value
  operator : Named Operator
  value : Value

namespace Condition

/-- Reads a condition; a missing field reads as the empty name. -/
def read (v : Value) : Except Problem Condition :=
  match v.entries? with
  | some entries =>
    match Vocabulary.find? (entries.field "operator") with
    | none => .error (.unknownOperator (entries.field "operator"))
    | some operator =>
      .ok ⟨(entries.field "field").orElse (.text ""), .known operator, entries.field "value"⟩
  | none => .error (.notAnObject .condition)

def toValue (c : Condition) : Value :=
  .object [("field", c.field), ("operator", c.operator.value), ("value", c.value)]

end Condition

end CaseWorkflow
