import CaseWorkflow.Calendar.Iso
import CaseWorkflow.Condition
import CaseWorkflow.Text.LowerCase

/-!
# Evaluating conditions

A condition is decided on data by field name.  An absent field is unequal to
everything and meets no other operator.  The ordering operators compare numbers
with numbers and dates with dates, where ISO texts count as dates; everything
else cannot be evaluated.  A list of conditions holds when all do, and the first
one that does not hold, or cannot be evaluated, decides.
-/

namespace CaseWorkflow

/-- Why a condition is not decided. -/
inductive Undecided where
  | incomparable (condition : Condition) (actual : Value)
  | zoneMismatch (condition : Condition)
  | unknownOperator (condition : Condition)
  /-- The field or the operator is a value that cannot be looked up. -/
  | notAKey (value : Value)

/-- A date that takes part in a comparison. -/
inductive Temporal where
  | day (date : Date)
  | moment (moment : Moment)

namespace Temporal

/-- The date that a text gives: a day if it can be one, else a moment. -/
def read? (s : String) : Option Temporal :=
  match Iso.readDate? s with
  | some date => some (.day date)
  | none => (Iso.readZoned? s).map .moment

def of? : Value → Option Temporal
  | .date d => some (.day d)
  | .moment m => some (.moment m)
  | v => v.text?.bind read?

/-- Two days, or a day and the day of a moment, are compared as days, two moments
as moments of one kind. -/
def cmp? : Temporal → Temporal → Option Ordering
  | .day a, .day b => some (a.cmp b)
  | .day a, .moment b => some (a.cmp b.date)
  | .moment a, .day b => some (a.date.cmp b)
  | .moment a, .moment b => a.cmp? b

end Temporal

def Operator.admits (operator : Operator) (order : Ordering) : Bool :=
  match operator with
  | .gt => order == .gt
  | .ge => order != .lt
  | .lt => order == .lt
  | .le => order != .gt
  | _ => false

/-- Whether a text stands somewhere in another one. -/
def occursIn (needle : List Char) : List Char → Bool
  | [] => needle.isEmpty
  | c :: cs => needle.isPrefixOf (c :: cs) || occursIn needle cs

/-- Whether the text of a value stands in the text of another one, whatever the
case of the letters. -/
def Value.mentions (v part : Value) : Bool :=
  let needle := (Text.lower part.plainText).toList
  let text := (Text.lower v.plainText).toList
  needle.length ≤ text.length && occursIn needle text

namespace Condition

/-- Decides an ordering operator. -/
def compareWith (c : Condition) (operator : Operator) (actual : Value) : Except Undecided Bool :=
  match actual.properNumber?, c.value.properNumber? with
  | some x, some y =>
    .ok (match x.cmp? y with
      | some order => operator.admits order
      | none => false)
  | _, _ =>
    match Temporal.of? actual, Temporal.of? c.value with
    | some x, some y =>
      match x.cmp? y with
      | some order => .ok (operator.admits order)
      | none => .error (.zoneMismatch c)
    | _, _ => .error (.incomparable c actual)

/-- Decides the condition for a field that is present. -/
def decideOn (c : Condition) (actual : Value) : Except Undecided Bool :=
  match c.operator with
  | .known .eq => .ok (actual.same c.value)
  | .known .ne => .ok (!actual.same c.value)
  | .known .contains => .ok (actual.mentions c.value)
  | .known .notContains => .ok (!actual.mentions c.value)
  | .known operator => c.compareWith operator actual
  | .other v => if v.isKey then .error (.unknownOperator c) else .error (.notAKey v)

/-- The value of the condition's field in the data. -/
def actual? (c : Condition) (data : Entries) : Option Value :=
  c.field.text?.bind (data.lookup ·)

def evaluate (c : Condition) (data : Entries) : Except Undecided Bool :=
  if !c.field.isKey then .error (.notAKey c.field)
  else
    match c.actual? data with
    | some actual => c.decideOn actual
    | none => .ok (c.operator.known? == some .ne)

/-- Decides whether all conditions hold, in order up to the first that does not. -/
def evaluateAll : List Condition → Entries → Except Undecided Bool
  | [], _ => .ok true
  | c :: rest, data => do
    if ← c.evaluate data then evaluateAll rest data else return false

/-- What the condition was asked to compare, in words. -/
def comparisonText (c : Condition) (actual : Value) : String :=
  s!"Cannot compare {c.field.expression} ({actual.kindName}) {c.operator.value.plainText} "
    ++ s!"{c.value.expression} ({c.value.kindName})"

end Condition

namespace Undecided

def message : Undecided → String
  | .incomparable c actual => c.comparisonText actual
  | .zoneMismatch _ => "can't compare offset-naive and offset-aware datetimes"
  | .unknownOperator c => "Unknown operator: " ++ c.operator.value.expression
  | .notAKey v => s!"unhashable type: '{v.kindName}'"

/-- The condition that could not be evaluated, unless it could not even be looked up. -/
def condition? : Undecided → Option Condition
  | .incomparable c _ => some c
  | .zoneMismatch c => some c
  | .unknownOperator c => some c
  | .notAKey _ => none

end Undecided

end CaseWorkflow
