import CaseWorkflow.Text.Digit

/-!
# Format specifications

How a field's text is laid out: fill and alignment, sign, width, grouping,
precision and presentation, each part optional and in this order.
-/

namespace CaseWorkflow.Template

structure Spec where
  fill : Char
  align : Char
  sign : Option Char
  /-- Whether a zero loses its minus sign. -/
  plainZero : Bool
  alternate : Bool
  width : Option Nat
  separator : Option Char
  precision : Option Nat
  presentation : Option Char
  deriving DecidableEq

namespace Spec

def isAlign (c : Char) : Bool := c == '<' || c == '>' || c == '=' || c == '^'

def isSign (c : Char) : Bool := c == ' ' || c == '+' || c == '-'

/-- The largest width and precision that can be written. -/
def sizeLimit : Nat := 0x8000000000000000

/-- Fill and alignment, if they are written. -/
def readAlign : List Char → Option Char × Option Char × List Char
  | c :: d :: rest =>
    if isAlign d then (some c, some d, rest)
    else if isAlign c then (none, some c, d :: rest)
    else (none, none, c :: d :: rest)
  | [c] => if isAlign c then (none, some c, []) else (none, none, [c])
  | [] => (none, none, [])

/-- A character of a class, if it stands first. -/
def readOne (accept : Char → Bool) : List Char → Option Char × List Char
  | c :: rest => if accept c then (some c, rest) else (none, c :: rest)
  | [] => (none, [])

/-- A number in the decimal digits of any script, which may be missing; none where
it is too large. -/
def readSize (cs : List Char) : Option (Option Nat × List Char) :=
  let digits := (cs.takeWhile fun c => (Text.digit? c).isSome)
  let size := digits.foldl (fun size c => size * 10 + (Text.digit? c).getD 0) 0
  if digits.isEmpty then some (none, cs)
  else if sizeLimit ≤ size then none
  else some (some size, cs.drop digits.length)

/-- The presentations that may have separators between groups of digits. -/
def groupable (separator : Char) : Option Char → Bool
  | none => true
  | some c =>
    c ∈ ['d', 'e', 'E', 'f', 'F', 'g', 'G', '%'] || (separator == '_' && c ∈ ['b', 'o', 'x', 'X'])

/-- Reads a specification.  A zero before the width fills with zeros, and for
numbers, which stand to the right by default, between the sign and the digits.  A null
character in the place of a presentation takes even the default one away. -/
def read? (defaultAlign : Char) (defaultPresentation : Option Char) (cs : List Char) :
    Option Spec := do
  let (fill, align, cs) := readAlign cs
  let (sign, cs) := readOne isSign cs
  let (plainZero, cs) := readOne (· == 'z') cs
  let (alternate, cs) := readOne (· == '#') cs
  let (zeroFill, cs) := if fill.isSome then (none, cs) else readOne (· == '0') cs
  let (width, cs) ← readSize cs
  let (comma, cs) := readOne (· == ',') cs
  let (underscore, cs) := readOne (· == '_') cs
  if underscore.isSome && (comma.isSome || (readOne (· == ',') cs).1.isSome) then none
  let (point, cs) := readOne (· == '.') cs
  let (precision, cs) ← if point.isSome then readSize cs else some (none, cs)
  if point.isSome && precision.isNone then none
  if 1 < cs.length then none
  let presentation := (cs.head? <|> defaultPresentation).filter (· != '\x00')
  let separator := comma <|> underscore
  if separator.any fun s => !groupable s presentation then none
  return {
    fill := fill.getD (if zeroFill.isSome then '0' else ' ')
    align := align.getD (if zeroFill.isSome && defaultAlign == '>' then '=' else defaultAlign)
    sign, plainZero := plainZero.isSome, alternate := alternate.isSome
    width, separator, precision, presentation }

end Spec

end CaseWorkflow.Template
