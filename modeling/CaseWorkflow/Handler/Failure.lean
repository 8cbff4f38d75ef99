import CaseWorkflow.Handler.Basic

/-!
# Failures of the host

The text of a failure follows from its class and its details: nothing without
details, one detail by itself, and several in parentheses.  A failed look-up
quotes its detail.  A failure of the operating system shows its number, and the
number alone tells its class where the class is left open.
-/

namespace CaseWorkflow.Failure

/-- The classes of failures of the operating system, by their numbers. -/
def systemClasses : List (Nat × String) :=
  [(1, "PermissionError"), (2, "FileNotFoundError"), (3, "ProcessLookupError"),
    (4, "InterruptedError"), (10, "ChildProcessError"), (11, "BlockingIOError"),
    (13, "PermissionError"), (17, "FileExistsError"), (20, "NotADirectoryError"),
    (21, "IsADirectoryError"), (32, "BrokenPipeError"), (103, "ConnectionAbortedError"),
    (104, "ConnectionResetError"), (108, "BrokenPipeError"), (110, "TimeoutError"),
    (111, "ConnectionRefusedError"), (114, "BlockingIOError"), (115, "BlockingIOError")]

/-- The class that leaves open what failed. -/
def openClass : String := "OSError"

def isSystemClass (kind : String) : Bool :=
  kind = openClass || kind = "ConnectionError" || systemClasses.any fun entry => entry.2 = kind

/-- Whether the details begin with a number and a text, as those of the operating
system do. -/
def isNumbered (kind : String) (details : List Value) : Bool :=
  isSystemClass kind && 2 ≤ details.length && details.length ≤ 5

def numberOf? : Value → Option Nat
  | .int i => i.toNat?
  | .bool b => some (if b then 1 else 0)
  | _ => none

/-- The class by which a failure is known. -/
def classOf (kind : String) (details : List Value) : String :=
  if kind = openClass && isNumbered kind details then
    ((details.head?.bind numberOf?).bind (systemClasses.lookup ·)).getD kind
  else kind

/-- The files that a failure of the operating system concerns: the third detail, and
the fifth as the place that the first file was to go to. -/
def filesText : List Value → String
  | file :: rest =>
    if file.isNull then ""
    else ": " ++ file.expression ++ match rest with
      | [_, target] => if target.isNull then "" else " -> " ++ target.expression
      | _ => ""
  | [] => ""

/-- The least number that no machine word can hold. -/
def wordLimit : Int := 0x8000000000000000

/-- How a failure for lack of readiness takes its third detail: as the count of the
characters that were written, if it is a number, which the text does not show. -/
inductive Written where
  | notANumber
  | fraction
  | tooLarge
  | count

def Written.of (detail : Value) : Written :=
  match detail.number? with
  | none => .notANumber
  | some (.float _) => .fraction
  | some (.int i) => if i < -wordLimit || wordLimit ≤ i then .tooLarge else .count

def text (kind : String) (details : List Value) : String :=
  match details with
  | [] => ""
  | [detail] => if kind = "KeyError" then detail.expression else detail.plainText
  | number :: message :: files =>
    if isNumbered kind details then
      s!"[Errno {number.plainText}] {message.plainText}" ++ filesText files
    else "(" ++ ", ".intercalate (details.map Value.expression) ++ ")"

/-- The failure that ends an iteration, which no handler may let out. -/
def endOfIteration : String := "StopIteration"

/-- The class of failures for lack of readiness. -/
def notReady : String := "BlockingIOError"

def reply (kind : String) (details : List Value) : Reply :=
  let known := classOf kind details
  if kind = endOfIteration then .raised "RuntimeError" s!"coroutine raised {endOfIteration}"
  else if known = notReady && isNumbered kind details then
    match Written.of (details.getD 2 .null) with
    | .notANumber => .raised known (text kind details)
    | .fraction => .raised "TypeError" "'float' object cannot be interpreted as an integer"
    | .tooLarge => .raised "ValueError" "cannot fit 'int' into an index-sized integer"
    | .count => .raised known (text kind (details.take 2))
  else .raised known (text kind details)

/-- Writing into an event, which handlers may only read. -/
def readOnly : Reply := .raised "TypeError" "'mappingproxy' object does not support item assignment"

end CaseWorkflow.Failure
