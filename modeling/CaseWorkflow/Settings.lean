import CaseWorkflow.Fault
import CaseWorkflow.Text.Encodable
import CaseWorkflow.Text.LowerCase
import CaseWorkflow.Text.WordChar

/-!
# Settings

The settings of an installation, read from environment variables.
-/

namespace CaseWorkflow

structure Settings where
  environment : String
  debug : Bool
  secretKey : String
  storeAddress : String
  queueName : String
  /-- How long a claimed message is left to its worker, in seconds. -/
  leaseSeconds : Int
  /-- How often a message is delivered before it is given up. -/
  maxAttempts : Int
  /-- The time that an action gets unless it names its own, in seconds. -/
  actionTimeout : Double
  /-- The templates activated at the start, separated by commas. -/
  activeTemplates : String
  logLevel : String
  logFormat : String

namespace Settings

def standard : Settings where
  environment := "development"
  debug := true
  secretKey := "dev-secret-key-change-in-production"
  storeAddress := "redis://localhost:6379/0"
  queueName := "workflow_events"
  leaseSeconds := 30
  maxAttempts := 3
  actionTimeout := Double.ofNat 5
  activeTemplates := ""
  logLevel := "INFO"
  logFormat := "%(asctime)s - %(name)s - %(levelname)s - %(message)s"

def trial : Settings :=
  { standard with
    environment := "testing"
    debug := false
    storeAddress := "redis://localhost:6379/1"
    queueName := "workflow_events_test"
    actionTimeout := Double.ofNat 1 }

/-- The ids of the templates activated at the start. -/
def activeIds (s : Settings) : List String :=
  ((s.activeTemplates.splitOn ",").map Text.trim).filter (!·.isEmpty)

abbrev Environment := Table String

/-- Refuses a text that no variable can have or be named by. -/
def checkVariableText (s : String) : Except Fault Unit :=
  match Text.unencodableBytes? s.toList with
  | some flaw => .error (.unencodable flaw)
  | none => .ok ()

/-- Sets a variable, whose value must be a text. -/
def Environment.set (environment : Environment) (name : String) (v : Value) :
    Except Fault Environment := do
  checkVariableText name
  match v.text? with
  | some s =>
    checkVariableText s
    if name.contains '\x00' || s.contains '\x00' then throw (.badVariable .nullInside)
    if name.contains '=' then throw (.badVariable .badName)
    if name.isEmpty then throw (.badVariable .unnamed)
    return environment.insert name s
  | none => throw (.wrongKind s!"str expected, not {v.kindName}")

def Environment.ofEntries (entries : Entries) : Except Fault Environment :=
  entries.foldlM (fun environment (name, v) => environment.set name v) []

/-- A variable read as a number, or the default where it is not set. -/
def number {α : Type} (read : String → Except NumberError α) (environment : Environment)
    (name : String) (default : α) : Except Fault α :=
  match environment.lookup name with
  | some text => (read text).mapError .number
  | none => .ok default

/-- The settings that an environment gives; what it leaves out is as in the base.
Debugging is on unless it is set to something other than true. -/
def ofEnvironment (base : Settings) (environment : Environment) : Except Fault Settings := do
  let text (name default : String) := (environment.lookup name).getD default
  let leaseSeconds ← number readInt environment "QUEUE_PROCESSING_TIMEOUT" base.leaseSeconds
  let maxAttempts ← number readInt environment "MAX_RETRIES" base.maxAttempts
  let actionTimeout ← number readFloat environment "ACTION_TIMEOUT_SECONDS" base.actionTimeout
  return {
    environment := text "FLASK_ENV" base.environment
    debug := Text.lower (text "FLASK_DEBUG" "true") = "true"
    secretKey := text "SECRET_KEY" base.secretKey
    storeAddress := text "REDIS_URL" base.storeAddress
    queueName := text "QUEUE_NAME" base.queueName
    leaseSeconds, maxAttempts, actionTimeout
    activeTemplates := text "ACTIVE_TEMPLATES" base.activeTemplates
    logLevel := text "LOG_LEVEL" base.logLevel
    logFormat := text "LOG_FORMAT" base.logFormat }

/-- The settings as data, under the names of their variables. -/
def toValue (s : Settings) : Value :=
  .object [
    ("FLASK_ENV", .text s.environment),
    ("FLASK_DEBUG", .bool s.debug),
    ("SECRET_KEY", .text s.secretKey),
    ("REDIS_URL", .text s.storeAddress),
    ("QUEUE_NAME", .text s.queueName),
    ("QUEUE_PROCESSING_TIMEOUT", .int s.leaseSeconds),
    ("MAX_RETRIES", .int s.maxAttempts),
    ("ACTION_TIMEOUT_SECONDS", .float s.actionTimeout),
    ("ACTIVE_TEMPLATES", .text s.activeTemplates),
    ("LOG_LEVEL", .text s.logLevel),
    ("LOG_FORMAT", .text s.logFormat)]

/-- The names of the variables that settings are read from. -/
def variableNames : List String := (standard.toValue.entries?.getD []).keys

def logLevels : List String :=
  ["CRITICAL", "FATAL", "ERROR", "WARN", "WARNING", "INFO", "DEBUG", "NOTSET"]

/-- The letters of conversions in either case; a dotted, a dotless and a long letter
count as the letters that they are cases of. -/
def isConversion (c : Char) : Bool :=
  c.toLower ∈ "diouxefgcrsa%".toList || c ∈ ['İ', 'ı', 'ſ']

/-- Skips a width or a precision: a star, or digits. -/
def skipSize : List Char → List Char
  | '*' :: cs => cs
  | cs => cs.dropWhile fun c => (Text.digit? c).isSome

/-- Whether a field of a log format stands at the start: a name in parentheses, flags,
a width, a precision and a conversion, where all but the name and the conversion may be
missing. -/
def startsWithLogField : List Char → Bool
  | '%' :: '(' :: cs =>
    let name := cs.takeWhile Text.isWordChar
    match cs.drop name.length with
    | ')' :: cs =>
      let cs := skipSize (cs.dropWhile (· ∈ "#0+ -".toList))
      let conversion := match cs with
        | '.' :: rest => if skipSize rest = rest then none else (skipSize rest).head?
        | cs => cs.head?
      !name.isEmpty && conversion.any isConversion
    | _ => false
  | _ => false

def hasLogField : List Char → Bool
  | [] => false
  | c :: cs => startsWithLogField (c :: cs) || hasLogField cs

/-- Checks the settings of the log: a format must show something, and the level must be
known.  An empty format means the usual one. -/
def checkLog (s : Settings) : Except Fault Unit := do
  if !s.logFormat.isEmpty && !hasLogField s.logFormat.toList then throw (.badLogFormat s.logFormat)
  if s.logLevel ∉ logLevels then throw (.unknownLogLevel s.logLevel)

end Settings

end CaseWorkflow
