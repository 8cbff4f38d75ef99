import CaseWorkflow.Address.Basic

/-!
# Routes

The addresses of the service, and the methods that each answers.
-/

namespace CaseWorkflow

inductive Route where
  | templates
  | metadata
  | template (id : String)
  | workflows
  | workflow (id : String)
  | toggle (id : String)
  | events
  | eventQueue
  | health
  | staticFile
  | drill
  deriving DecidableEq

namespace Route

/-- The route that the parts of a path lead to; no part may be empty. -/
def ofSegments : List String → Option Route
  | ["api", "v1", "templates"] => some .templates
  | ["api", "v1", "templates", "metadata"] => some .metadata
  | ["api", "v1", "templates", id] => if id.isEmpty then none else some (.template id)
  | ["api", "v1", "workflows"] => some .workflows
  | ["api", "v1", "workflows", id] => if id.isEmpty then none else some (.workflow id)
  | ["api", "v1", "workflows", id, "toggle"] => if id.isEmpty then none else some (.toggle id)
  | ["api", "v1", "events"] => some .events
  | ["api", "v1", "events", "queue"] => some .eventQueue
  | ["health"] => some .health
  | "static" :: first :: _ => if first.isEmpty then none else some .staticFile
  | ["fault"] => some .drill
  | _ => none

def ofPath (path : List Char) : Option Route := ofSegments (Address.parts path)

/-- The methods that a route answers, besides those that ask about it. -/
def methods : Route → List String
  | .templates | .metadata | .template _ | .health | .staticFile | .drill => ["GET"]
  | .workflows => ["GET", "POST"]
  | .workflow _ => ["GET", "DELETE"]
  | .toggle _ | .events | .eventQueue => ["POST"]

/-- Whether a route answers a method.  What answers a request for data tells its head as
well, and each route tells its methods. -/
def accepts (route : Route) (method : String) : Bool :=
  method ∈ route.methods || (method = "HEAD" && "GET" ∈ route.methods) || method = "OPTIONS"

end Route

/-- Where a request is led. -/
inductive Destination where
  | route (route : Route)
  /-- The same path without empty parts. -/
  | elsewhere (path : String)
  | wrongMethod
  | nowhere
  deriving DecidableEq

/-- Leads a request to the route of its path.  If no route takes it there but one would
take it at the path without empty parts, the request is sent to that path. -/
def Destination.of (path method : String) : Destination :=
  let path := Address.rooted path
  let merged := Address.mergeSlashes path
  match Route.ofPath path, Route.ofPath merged with
  | some here, other =>
    if here.accepts method then .route here
    else if other.any (·.accepts method) then .elsewhere (String.ofList merged)
    else .wrongMethod
  | none, some there =>
    if there.accepts method then .elsewhere (String.ofList merged) else .wrongMethod
  | none, none => .nowhere

end CaseWorkflow
