import CaseWorkflow.Address.Basic
import CaseWorkflow.Fault
import CaseWorkflow.Text.Blank
import CaseWorkflow.Text.Units

/-!
# Requests

A request names a method and a target and may carry a body.  A body is read as JSON
where its type says so; any other body, and one that is not JSON, counts as null.
-/

namespace CaseWorkflow

/-- Failures that the service can be asked to show. -/
inductive Drill where
  | validation
  | notFound
  | other
  deriving DecidableEq

structure Request where
  method : String
  target : String
  contentType : String
  body : String
  drill : Drill

namespace Request

/-- The method in capitals, by which a request is led. -/
def verb (r : Request) : String := r.method.map Char.toUpper

/-- Where the request goes.  A header that runs over several lines and a body that cannot
be sent are as bad as a bad target. -/
def address (r : Request) : Except Fault Address := do
  let address ← (Address.ofTarget r.target).mapError .address
  if r.contentType.toList.any fun c => c == '\n' || c == '\r' then throw .brokenHeader
  match Text.unencodable? r.body.toList with
  | some flaw => throw (.unencodable flaw)
  | none => return address

def isJsonType (contentType : String) : Bool :=
  let type := (Text.lower (Text.trim (String.ofList (Target.cut ';' contentType.toList).1))).toList
  type = "application/json".toList
    || ("application/".toList.isPrefixOf type && "+json".toList.isSuffixOf type)

/-- The text of the body, which may be in larger units than bytes, without a byte order
mark; none if it is not whole. -/
def bodyText? (r : Request) : Option String :=
  let bytes := r.body.toList.flatMap String.utf8EncodeChar
  match Text.UnitForm.detect bytes with
  | some form => (form.decode? bytes).map String.ofList
  | none =>
    match r.body.toList with
    | '\uFEFF' :: cs => some (String.ofList cs)
    | _ => some r.body

/-- The body as data.  A body that nests too deep is an error. -/
def data (r : Request) : Except Json.Error Value :=
  if isJsonType r.contentType then
    match r.bodyText?.map Json.read with
    | some (.ok v) => .ok v
    | some (.error (.tooDeep innermost)) => .error (.tooDeep innermost)
    | _ => .ok .null
  else .ok .null

end Request

end CaseWorkflow
