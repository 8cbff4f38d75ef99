import CaseWorkflow.Calendar.Pattern
import CaseWorkflow.Number.Decimal
import CaseWorkflow.Template.Spec
import CaseWorkflow.Value.Text

/-!
# Laid-out texts and numbers

Texts are cut to the precision and padded to the width; numbers are presented in
a base or as decimals, grouped, signed and padded.
-/

namespace CaseWorkflow.Template

/-- Why a template cannot be rendered: it is malformed for the data, which leaves
the text as it is, or a value's kind or size does not permit what is asked, or no memory
could hold a field of such a width. -/
inductive Obstacle where
  | malformed
  | wrongKind (message : String)
  | tooLarge (message : String)
  | tooWide
  deriving DecidableEq

abbrev Laid := Except Obstacle (List Char)

/-- The least width that no field can have. -/
def widthLimit : Nat := 0x100000000

def Spec.checkWidth (spec : Spec) : Except Obstacle Unit :=
  if widthLimit ≤ spec.width.getD 0 then .error .tooWide else .ok ()

/-- Padding before and after a text; the inner alignment pads texts after them. -/
def Spec.pad (spec : Spec) (cs : List Char) : List Char :=
  let room := spec.width.getD 0 - cs.length
  let before := if spec.align == '>' then room else if spec.align == '^' then room / 2 else 0
  List.replicate before spec.fill ++ cs ++ List.replicate (room - before) spec.fill

def Spec.layText (spec : Spec) (cs : List Char) : Laid :=
  if spec.presentation ≠ some 's' || spec.sign.isSome || spec.plainZero || spec.alternate
      || spec.align == '=' then .error .malformed
  else do
    spec.checkWidth
    return spec.pad (match spec.precision with
      | some precision => cs.take precision
      | none => cs)

/-- A number's text in parts: its sign, a mark of the base, the digits that can be
grouped, and whatever follows them. -/
structure NumberParts where
  negative : Bool
  base : List Char
  digits : List Char
  rest : List Char

/-- How many digits stand between separators, and the separator. -/
structure Grouping where
  size : Nat
  separator : Char

/-- Groups digits from the last one on, with zeros up to the width.  Input and
output begin with the last digit. -/
def Grouping.reversed (grouping : Grouping) : Nat → List Char → Int → List Char
  | 0, digits, _ => digits
  | fuel + 1, digits, width =>
    let count := min grouping.size (max (max digits.length width.toNat) 1)
    let group := (digits.take count).rightpad count '0'
    let digits := digits.drop count
    let width := width - count
    if digits.isEmpty && width ≤ 0 then group
    else group ++ grouping.separator :: grouping.reversed fuel digits (width - 1)

/-- The digits grouped, with zeros before them up to the width. -/
def groupDigits (grouping : Option Grouping) (digits : List Char) (width : Int) : List Char :=
  match grouping with
  | none => digits.leftpad width.toNat '0'
  | some grouping =>
    (grouping.reversed (digits.length + width.toNat + 1) digits.reverse width).reverse

def Spec.signOf (spec : Spec) (negative : Bool) : List Char :=
  if negative then ['-']
  else if spec.sign = some '+' then ['+']
  else if spec.sign = some ' ' then [' ']
  else []

def Spec.grouping (spec : Spec) : Option Grouping :=
  spec.separator.map fun separator =>
    let inBase := spec.presentation ∈ [some 'b', some 'o', some 'x', some 'X']
    ⟨if inBase then 4 else 3, separator⟩

/-- A number in a field.  Zeros that fill up to the width are grouped like digits. -/
def Spec.layNumber (spec : Spec) (parts : NumberParts) : List Char :=
  let sign := spec.signOf parts.negative
  let others := sign.length + parts.base.length + parts.rest.length
  let zeroFilled := spec.fill == '0' && spec.align == '='
  let least : Int := if zeroFilled then (spec.width.getD 0 : Int) - others else 0
  let digits :=
    if parts.digits.isEmpty then [] else groupDigits spec.grouping parts.digits least
  let body := digits ++ parts.rest
  if spec.align == '=' then
    let room := spec.width.getD 0 - (others + digits.length)
    sign ++ parts.base ++ List.replicate room spec.fill ++ body
  else spec.pad (sign ++ parts.base ++ body)

/-- The least number that a machine word cannot hold. -/
def wordLimit : Int := 0x8000000000000000

/-- The least number above all code points. -/
def codeLimit : Nat := 0x110000

/-- An integer presented as the character with that code. -/
def Spec.layCharacter (spec : Spec) (i : Int) : Laid :=
  if spec.sign.isSome || spec.alternate then .error .malformed
  else if i < -wordLimit || wordLimit ≤ i then
    .error (.tooLarge "Python int too large to convert to C long")
  else if i < 0 || codeLimit ≤ i.toNat then
    .error (.tooLarge "%c arg not in range(0x110000)")
  else do
    spec.checkWidth
    return spec.layNumber ⟨false, [], [], [Char.ofNat i.toNat]⟩

/-- The base of a presentation, with the mark that the alternate form shows. -/
def baseOf : Option Char → Nat × List Char
  | some 'b' => (2, ['0', 'b'])
  | some 'o' => (8, ['0', 'o'])
  | some 'x' => (16, ['0', 'x'])
  | some 'X' => (16, ['0', 'X'])
  | _ => (10, [])

/-- An integer presented in a base. -/
def Spec.layInteger (spec : Spec) (i : Int) : List Char :=
  let (base, mark) := baseOf spec.presentation
  let digits := Nat.toDigits base i.natAbs
  let digits := if spec.presentation = some 'X' then digits.map Char.toUpper else digits
  spec.layNumber ⟨i < 0, if spec.alternate then mark else [], digits, []⟩

/-- The most places that a decimal presentation can have. -/
def precisionLimit : Nat := 0x80000000

/-- No finite number has more significant digits, or more places, than this. -/
def digitLimit : Nat := 1100

/-- The magnitude of a finite number in a decimal presentation, and whether all its
digits are zero. -/
def Spec.magnitude (spec : Spec) (mantissa : Nat) (exponent : Int) : List Char × Bool :=
  let (num, den) := Double.ratio mantissa exponent
  let precision := spec.precision.getD 6
  let general (threshold count leastPlaces : Nat) : List Char × Bool :=
    let d := Decimal.significant num den (min count digitLimit)
    let text :=
      if -4 < d.point ∧ d.point ≤ threshold then
        d.positional (if spec.alternate then max leastPlaces (count - d.point).toNat
          else leastPlaces) spec.alternate
      else d.scientific (if spec.alternate then count - 1 else 0) spec.alternate 'e'
    (text, d.digits.isEmpty)
  match spec.presentation with
  | some 'e' | some 'E' =>
    let d := Decimal.significant num den (min (precision + 1) digitLimit)
    (d.scientific precision spec.alternate 'e', d.digits.isEmpty)
  | some 'f' | some 'F' | some '%' =>
    let d := Decimal.fixed num den (min precision digitLimit)
    (d.positional precision spec.alternate, d.digits.isEmpty)
  | some _ => general (max precision 1) (max precision 1) 0
  | none =>
    match spec.precision with
    | some precision => general (max precision 1 - 1) (max precision 1) 1
    | none =>
      let d := Decimal.shortest mantissa exponent
      (if -4 < d.point ∧ d.point ≤ 16 then d.positional 1 spec.alternate
        else d.scientific 0 spec.alternate 'e', d.digits.isEmpty)

/-- A number's text in parts, the whole digits apart from the rest. -/
def NumberParts.ofText (negative : Bool) (cs : List Char) : NumberParts :=
  ⟨negative, [], cs.takeWhile Char.isDigit, cs.dropWhile Char.isDigit⟩

def isCapital (presentation : Option Char) : Bool :=
  presentation ∈ [some 'E', some 'F', some 'G']

/-- A floating point number in a decimal presentation; a percentage is a hundred
times the number. -/
def Spec.layDouble (spec : Spec) (d : Double) : Laid :=
  if precisionLimit ≤ spec.precision.getD 0 then .error .malformed
  else do
    spec.checkWidth
    let percent := spec.presentation = some '%'
    let d := if percent then d.scale 100 else d
    let (negative, body) := match d with
      | .nan => (false, "nan".toList)
      | .infinity negative => (negative, "inf".toList)
      | .finite negative mantissa exponent _ =>
        let (body, isZero) := spec.magnitude mantissa exponent
        (negative && !(spec.plainZero && isZero), body)
    let body := if isCapital spec.presentation then body.map Char.toUpper else body
    return spec.layNumber (.ofText negative (body ++ if percent then ['%'] else []))

def isIntegerPresentation (presentation : Option Char) : Bool :=
  presentation ∈ [some 'b', some 'd', some 'o', some 'x', some 'X', some 'n']

def isDecimalPresentation (presentation : Option Char) : Bool :=
  presentation ∈ [some 'e', some 'E', some 'f', some 'F', some 'g', some 'G', some '%']

/-- An integer in a field. -/
def layInt (i : Int) (format : List Char) : Laid :=
  match Spec.read? '>' (some 'd') format with
  | none => .error .malformed
  | some spec =>
    if isDecimalPresentation spec.presentation then
      match Double.ofInt? i with
      | some d => spec.layDouble d
      | none => .error (.tooLarge "int too large to convert to float")
    else if spec.precision.isSome || spec.plainZero then .error .malformed
    else if spec.presentation = some 'c' then spec.layCharacter i
    else if isIntegerPresentation spec.presentation then do
      spec.checkWidth
      return spec.layInteger i
    else .error .malformed

/-- A floating point number in a field. -/
def layFloat (d : Double) (format : List Char) : Laid :=
  match Spec.read? '>' none format with
  | none => .error .malformed
  | some spec =>
    if spec.presentation.isNone || isDecimalPresentation spec.presentation
        || spec.presentation = some 'n' then spec.layDouble d
    else .error .malformed

/-- A moment in a field, by a pattern that has an encoding. -/
def layMoment (m : Moment) (format : List Char) : Laid :=
  if format.any Text.isHalf then .error .malformed else .ok (m.textBy format)

/-- A value in a field.  Without a format it is its plain text; texts and numbers
know formats, days and moments take a pattern, and other kinds refuse a format. -/
def layValue (v : Value) (format : List Char) : Laid :=
  if format.isEmpty then .ok v.plainText.toList
  else
    match v with
    | .text _ | .member _ =>
      match Spec.read? '<' (some 's') format with
      | none => .error .malformed
      | some spec => spec.layText v.plainText.toList
    | .bool b => layInt (if b then 1 else 0) format
    | .int i => layInt i format
    | .float d => layFloat d format
    | .date d => layMoment (Moment.midnight d) format
    | .moment m => layMoment m format
    | v => .error (.wrongKind s!"unsupported format string passed to {v.kindName}.__format__")

end CaseWorkflow.Template
