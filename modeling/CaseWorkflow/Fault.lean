import CaseWorkflow.Address.HostName
import CaseWorkflow.Calendar.Clock
import CaseWorkflow.Condition.Evaluation
import CaseWorkflow.Definition.Validation
import CaseWorkflow.Instance.Status
import CaseWorkflow.Json.Reader

/-!
# Faults

Why an operation ends without a result.
-/

namespace CaseWorkflow

/-- Why a variable cannot be set in an environment. -/
inductive VariableFlaw where
  | nullInside
  | unnamed
  | badName
  deriving DecidableEq

def VariableFlaw.message : VariableFlaw → String
  | .nullInside => "embedded null byte"
  | .unnamed => "[Errno 22] Invalid argument"
  | .badName => "illegal environment variable name"

inductive Fault where
  | invalid (invalid : Invalid)
  | undecided (undecided : Undecided)
  | gap (gap : Definition.Gap)
  | badStep (step : Status.BadStep)
  | notAMember (value : Value) (title : String)
  | number (error : NumberError)
  | json (error : Json.Error)
  | notAKey (value : Value)
  | wrongKind (message : String)
  | tooLarge (message : String)
  | instanceMissing (id : Value)
  | templateMissing (id : Value)
  /-- Something else that the host did not find. -/
  | missing (message : String)
  | duplicateTemplate (id : Value)
  | unknownCapabilities (names : List String)
  | unknownLogLevel (name : String)
  | badLogFormat (format : String)
  | badVariable (flaw : VariableFlaw)
  | registryUnavailable
  | storeDown
  | storeRefused (message : String)
  /-- The length of a lease is neither an integer nor a text of digits. -/
  | leaseUnusable
  /-- A value of a kind that the store does not take. -/
  | unsendable (kind : String)
  | clock (flaw : ClockFlaw)
  | addressUnusable
  | address (problem : AddressProblem)
  | unencodable (flaw : Text.Unencodable)
  /-- A header that runs over several lines. -/
  | brokenHeader
  | cancelled

namespace Fault

def message : Fault → String
  | .invalid i => i.message
  | .undecided u => u.message
  | .gap g => g.message
  | .badStep step => step.message
  | .notAMember value title => s!"{value.expression} is not a valid {title}"
  | .number e => e.message
  | .json e => e.message
  | .notAKey value => s!"unhashable type: '{value.kindName}'"
  | .wrongKind message => message
  | .tooLarge message => message
  | .instanceMissing id => s!"Workflow instance {id.plainText} not found"
  | .templateMissing id => s!"Template '{id.plainText}' not found"
  | .missing message => message
  | .duplicateTemplate id => s!"Duplicate template id: {id.plainText}"
  | .unknownCapabilities names => "Unknown capabilities: " ++ ", ".intercalate names
  | .unknownLogLevel name => s!"Unknown level: {Text.quoted name}"
  | .badLogFormat format => s!"Invalid format '{format}' for '%' style"
  | .badVariable flaw => flaw.message
  | .registryUnavailable => "registry unavailable"
  | .storeDown => "FakeRedis is emulating a connection error."
  | .storeRefused message => message
  | .leaseUnusable => "ex must be datetime.timedelta or int"
  | .unsendable kind =>
    s!"Invalid input of type: '{kind}'. Convert to a bytes, string, int or float first."
  | .clock flaw => flaw.message
  | .addressUnusable =>
    "Redis URL must specify one of the following schemes (redis://, rediss://, unix://)"
  | .address problem => problem.message
  | .unencodable flaw => flaw.message
  | .brokenHeader => "Header values must not contain newline characters."
  | .cancelled => ""

end Fault

/-- The member that a value names. -/
def Vocabulary.resolve {α : Type} [Vocabulary α] (v : Value) : Except Fault α :=
  match Vocabulary.find? v with
  | some member => .ok member
  | none => .error (.notAMember v (Vocabulary.title α))

end CaseWorkflow
