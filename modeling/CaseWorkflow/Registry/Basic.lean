import CaseWorkflow.Catalog.Standard
import CaseWorkflow.Execution

/-!
# The registry

The activated workflows in the order of their activation, with the catalog that
templates come from and the handlers that carry out their actions.
-/

namespace CaseWorkflow

structure Registry where
  handlers : Handlers
  timeout : Value
  catalog : Catalog
  instances : List Instance

namespace Registry

/-- A registry without instances.  An empty catalog gives way to the standard one. -/
def start (handlers : Handlers) (timeout : Value) (catalog : Option Catalog) : Registry where
  handlers := handlers
  timeout := timeout
  catalog := match catalog with
    | some c => if c.size = 0 then Catalog.standard else c
    | none => Catalog.standard
  instances := []

def dispatcher (r : Registry) : Dispatcher := ⟨r.handlers, r.timeout, false⟩

def active (r : Registry) : List Instance := r.instances.filter Instance.isActive

def size (r : Registry) : Nat := r.instances.length

def find? (r : Registry) (id : String) : Option Instance := r.instances.find? (·.id == id)

def get (r : Registry) (id : Value) : Except Fault Instance :=
  match id.text?.bind r.find? with
  | some i => .ok i
  | none => .error (if id.isKey then .instanceMissing id else .notAKey id)

def append (r : Registry) (i : Instance) : Registry := { r with instances := r.instances ++ [i] }

/-- Puts an instance in the place of the one with its id. -/
def replace (r : Registry) (i : Instance) : Registry :=
  { r with instances := r.instances.map fun j => if j.id == i.id then i else j }

def erase (r : Registry) (id : String) : Registry :=
  { r with instances := r.instances.filter (·.id != id) }

end Registry

end CaseWorkflow
