import CaseWorkflow.Calendar.Moment
import CaseWorkflow.Number.Order
import CaseWorkflow.Table

/-!
# Values

The data that definitions, events and messages carry: JSON values, and the days, the
moments and the members of vocabularies that a host may put among them.  A member is as
good as the text that stands for it, but is shown otherwise.  The entries of an object
keep the order in which their keys first came.
-/

namespace CaseWorkflow

/-- A member of a closed vocabulary: the title of the vocabulary, the member's label, and
the text that stands for it in data. -/
structure Member where
  title : String
  label : String
  wire : String
  deriving DecidableEq

/-- The member as messages show it. -/
def Member.text (m : Member) : String := m.title ++ "." ++ m.label

inductive Value where
  | null
  | bool (value : Bool)
  | int (value : Int)
  | float (value : Double)
  | text (value : String)
  | list (items : List Value)
  | object (entries : List (String × Value))
  | date (value : Date)
  | moment (value : Moment)
  | member (value : Member)
  deriving Inhabited

abbrev Entries := Table Value

/-- The value of a key; an absent key reads as null. -/
def Entries.field (entries : Entries) (key : String) : Value := (entries.lookup key).getD .null

namespace Value

def kindName : Value → String
  | .null => "NoneType"
  | .bool _ => "bool"
  | .int _ => "int"
  | .float _ => "float"
  | .text _ => "str"
  | .list _ => "list"
  | .object _ => "dict"
  | .date _ => "date"
  | .moment _ => "datetime"
  | .member value => value.title

/-- The name of a value's kind with the library that it belongs to. -/
def qualifiedKind : Value → String
  | .date _ => "datetime.date"
  | .moment _ => "datetime.datetime"
  | v => v.kindName

/-- Whether the value says something: not null, false, zero or empty. -/
def isTruthy : Value → Bool
  | .null => false
  | .bool value => value
  | .int value => value != 0
  | .float value => !(Number.float value).isZero
  | .text value => !value.isEmpty
  | .list items => !items.isEmpty
  | .object entries => !entries.isEmpty
  | .member value => !value.wire.isEmpty
  | .date _ | .moment _ => true

/-- Whether the value can be looked up in a table. -/
def isKey : Value → Bool
  | .list _ | .object _ => false
  | _ => true

def isNull : Value → Bool
  | .null => true
  | _ => false

/-- The number of a value, where truth values count as one and zero. -/
def number? : Value → Option Number
  | .bool value => some (.int (if value then 1 else 0))
  | .int value => some (.int value)
  | .float value => some (.float value)
  | _ => none

/-- The number of a value that is no truth value. -/
def properNumber? : Value → Option Number
  | .int value => some (.int value)
  | .float value => some (.float value)
  | _ => none

/-- The text of a value; of a member, the text that stands for it. -/
def text? : Value → Option String
  | .text value => some value
  | .member value => some value.wire
  | _ => none

/-- The value, where a text takes the place of a member. -/
def plain : Value → Value
  | .member value => .text value.wire
  | v => v

def entries? : Value → Option Entries
  | .object entries => some entries
  | _ => none

/-- The value under a key of an object; everything else reads as null. -/
def field (v : Value) (key : String) : Value :=
  match v.entries? with
  | some entries => entries.field key
  | none => .null

/-- The value, or another one in its place when it says nothing. -/
def orElse (value other : Value) : Value := if value.isTruthy then value else other

mutual

/-- Equality of contents: numbers by their value, objects whatever the order of
their entries, moments of one kind by the instant.  Not-a-number equals nothing. -/
def same : Value → Value → Bool
  | .null, .null => true
  | .list a, .list b => sameItems a b
  | .object a, .object b => a.length == b.length && sameEntries a b
  | .date a, .date b => a == b
  | .moment a, .moment b => a.cmp? b == some .eq
  | a, b =>
    match a.number?, b.number?, a.text?, b.text? with
    | some x, some y, _, _ => x.eq y
    | _, _, some s, some t => s == t
    | _, _, _, _ => false

def sameItems : List Value → List Value → Bool
  | [], [] => true
  | a :: as, b :: bs => same a b && sameItems as bs
  | _, _ => false

/-- Whether the second object has an equal value under each key of the first. -/
def sameEntries : List (String × Value) → List (String × Value) → Bool
  | [], _ => true
  | (key, a) :: rest, other =>
    (match other.lookup key with
    | some b => same a b
    | none => false) && sameEntries rest other

end

end Value

end CaseWorkflow
