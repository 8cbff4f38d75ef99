/-!
# The journal

What the parts of the program note while they work.
-/

namespace CaseWorkflow

inductive Level where
  | debug
  | info
  | warning
  | error
  | critical
  deriving DecidableEq

namespace Level

def name : Level → String
  | .debug => "DEBUG"
  | .info => "INFO"
  | .warning => "WARNING"
  | .error => "ERROR"
  | .critical => "CRITICAL"

end Level

/-- The part of the journal that a handler gives its texts to. -/
inductive Outlet where
  /-- Notes each text at a level. -/
  | level (level : Level)
  /-- Takes a text and notes nothing. -/
  | silent
  /-- Takes the name of a level only. -/
  | levelNames
  /-- Takes records only. -/
  | records
  /-- Takes no single text. -/
  | closed
  deriving DecidableEq

namespace Outlet

/-- The parts of the journal that take any single text. -/
def silentNames : List String :=
  ["__class__", "__eq__", "__ge__", "__gt__", "__init__", "__le__", "__lt__", "__ne__",
    "__subclasshook__", "addFilter", "addHandler", "filter", "findCaller", "getChild",
    "removeFilter", "removeHandler"]

/-- The parts of the journal that take records, or the names of its parts. -/
def recordNames : List String := ["__delattr__", "__getattribute__", "callHandlers", "handle"]

/-- The parts of the journal that take no text, or more than one. -/
def closedNames : List String :=
  ["__dict__", "__dir__", "__doc__", "__format__", "__getstate__", "__hash__",
    "__init_subclass__", "__module__", "__new__", "__reduce__", "__reduce_ex__", "__repr__",
    "__setattr__", "__sizeof__", "__str__", "__weakref__", "_cache", "_log", "disabled", "filters",
    "getEffectiveLevel", "handlers", "hasHandlers", "isEnabledFor", "level", "log", "makeRecord",
    "manager", "name", "parent", "propagate", "root"]

/-- The part of the journal with a name; the usual level where the name is unknown. -/
def ofName (name : String) : Outlet :=
  if name = "debug" then .level .debug
  else if name = "warning" || name = "warn" then .level .warning
  else if name = "error" || name = "exception" then .level .error
  else if name = "critical" || name = "fatal" then .level .critical
  else if name = "setLevel" then .levelNames
  else if name ∈ silentNames then .silent
  else if name ∈ recordNames then .records
  else if name ∈ closedNames then .closed
  else .level .info

end Outlet

/-- The part of the program that notes something. -/
inductive Writer where
  | handlers
  | dispatcher
  | aggregator
  | registry
  | queue
  | worker
  | app
  | routes
  deriving DecidableEq

def Writer.name : Writer → String
  | .handlers => "action_handlers"
  | .dispatcher => "dispatcher"
  | .aggregator => "aggregator"
  | .registry => "registry"
  | .queue => "queue"
  | .worker => "worker"
  | .app => "app"
  | .routes => "routes"

structure Note where
  writer : Writer
  level : Level
  message : String
  deriving DecidableEq

end CaseWorkflow
