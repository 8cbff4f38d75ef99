import CaseWorkflow.Fault

/-!
# Catalogs

A catalog offers validated templates by their ids, no two of which are the same.
-/

namespace CaseWorkflow

/-- The id of a workflow, which is a text. -/
def Workflow.idText (w : Workflow) : String := w.id.text?.getD ""

structure Catalog where
  templates : List Workflow
  distinct : (templates.map Workflow.idText).Nodup

namespace Catalog

def empty : Catalog := ⟨[], List.nodup_nil⟩

/-- Adds a template at the end. -/
def add (c : Catalog) (w : Workflow) : Except Fault Catalog :=
  if h : w.idText ∈ c.templates.map Workflow.idText then .error (.duplicateTemplate w.id)
  else .ok ⟨c.templates ++ [w], by
    rw [List.map_append, List.nodup_append]
    refine ⟨c.distinct, by simp, ?_⟩
    intro a ha b hb hab
    simp only [List.map_cons, List.map_nil, List.mem_singleton] at hb
    exact h (hb ▸ hab ▸ ha)⟩

/-- A catalog of definitions, each validated in turn. -/
def ofDefinitions (definitions : List Definition) : Except Fault Catalog :=
  definitions.foldlM
    (fun c d =>
      match Workflow.ofDefinition d with
      | .ok w => c.add w
      | .error invalid => .error (.invalid invalid))
    empty

def find? (c : Catalog) (id : Value) : Except Fault (Option Workflow) :=
  match id.text? with
  | some s => .ok (c.templates.find? fun w => w.idText == s)
  | none => if id.isKey then .ok none else .error (.notAKey id)

def get (c : Catalog) (id : Value) : Except Fault Workflow := do
  match ← c.find? id with
  | some w => return w
  | none => throw (.templateMissing id)

def contains (c : Catalog) (id : Value) : Except Fault Bool :=
  (c.find? id).map Option.isSome

def size (c : Catalog) : Nat := c.templates.length

def ids (c : Catalog) : List Value := c.templates.map Workflow.id

end Catalog

end CaseWorkflow
