import CaseWorkflow.Number.Double

/-!
# Decimal digits of a number

A positive fraction is written as a row of decimal digits and the place of the
point.  Three ways of choosing the digits: a number of significant ones, a
number of places after the point, or the fewest that still single out a double
precision number.
-/

namespace CaseWorkflow

/-- The value `0.d₁d₂d₃… * 10 ^ point`; the row does not end in a zero. -/
structure Decimal where
  digits : List Char
  point : Int

namespace Decimal

/-- Zero has no digits, and its point stands after the first place. -/
def none : Decimal := ⟨[], 1⟩

/-- The digits of `count * 10 ^ exponent`. -/
def ofCount (count : Nat) (exponent : Int) : Decimal :=
  if count = 0 then none
  else
    let digits := Nat.toDigits 10 count
    ⟨(digits.reverse.dropWhile (· == '0')).reverse, digits.length + exponent⟩

/-- Whether `10 ^ power ≤ num / den`. -/
def reaches (num den : Nat) (power : Int) : Bool :=
  Nat.pow 10 power.toNat * den ≤ num * Nat.pow 10 (-power).toNat

/-- Raises the power while the fraction reaches it. -/
def climb (num den : Nat) : Nat → Int → Int
  | 0, power => power
  | steps + 1, power => if reaches num den power then climb num den steps (power + 1) else power

/-- The least power of ten above the fraction.  The binary logarithm gives a
guess from below that is at most three short. -/
def pointOf (num den : Nat) : Int :=
  climb num den 4 (((num.log2 : Int) - den.log2 - 1) * 1233 / 4096)

/-- The fraction counted in units of `10 ^ exponent`, again as a fraction. -/
def inUnits (num den : Nat) (exponent : Int) : Nat × Nat :=
  (num * Nat.pow 10 (-exponent).toNat, den * Nat.pow 10 exponent.toNat)

/-- The fraction rounded to a number of significant digits. -/
def significant (num den : Nat) (count : Nat) : Decimal :=
  if num = 0 then none
  else
    let exponent := pointOf num den - count
    let (scaled, unit) := inUnits num den exponent
    ofCount (roundHalfEven scaled unit) exponent

/-- The fraction rounded to a number of places after the point. -/
def fixed (num den : Nat) (places : Nat) : Decimal :=
  ofCount (roundHalfEven (num * Nat.pow 10 places) den) (-(places : Int))

/-- The numbers that round to a double, as an interval around it.  All three are
counts of the same unit `1 / den`. -/
structure Interval where
  low : Nat
  middle : Nat
  high : Nat
  den : Nat
  closed : Bool

/-- The interval of a positive double.  Below a power of two the neighbours are
nearer by half. -/
def intervalOf (mantissa : Nat) (exponent : Int) : Interval :=
  let unit := Nat.pow 2 (exponent - 2).toNat
  let below := if mantissa = fullMantissa ∧ -1074 < exponent then 1 else 2
  { low := (4 * mantissa - below) * unit
    middle := 4 * mantissa * unit
    high := (4 * mantissa + 2) * unit
    den := Nat.pow 2 (2 - exponent).toNat
    closed := mantissa % 2 = 0 }

/-- Whether `count * 10 ^ exponent` lies in the interval. -/
def Interval.holds (i : Interval) (count : Nat) (exponent : Int) : Bool :=
  let x := count * Nat.pow 10 exponent.toNat * i.den
  let low := i.low * Nat.pow 10 (-exponent).toNat
  let high := i.high * Nat.pow 10 (-exponent).toNat
  if i.closed then low ≤ x && x ≤ high else low < x && x < high

/-- The multiple of `10 ^ exponent` in the interval that is nearest to its
middle, if there is one beside the middle. -/
def Interval.nearest? (i : Interval) (exponent : Int) : Option Decimal :=
  let (scaled, unit) := inUnits i.middle i.den exponent
  let down := scaled / unit
  let nearer := roundHalfEven scaled unit
  let further := if nearer = down then down + 1 else down
  if i.holds nearer exponent then some (ofCount nearer exponent)
  else if i.holds further exponent then some (ofCount further exponent)
  else Option.none

/-- The first grid, from coarse to fine, with a hit in the interval. -/
def Interval.search (i : Interval) (point : Int) : Nat → Nat → Decimal
  | 0, count => significant i.middle i.den count
  | steps + 1, count =>
    match i.nearest? (point - count) with
    | some d => d
    | Option.none => i.search point steps (count + 1)

/-- The fewest digits that single out a double; seventeen always do. -/
def shortest (mantissa : Nat) (exponent : Int) : Decimal :=
  if mantissa = 0 then none
  else
    let i := intervalOf mantissa exponent
    i.search (pointOf i.middle i.den) 16 1

/-- The part before the point, and the part after it filled up to a number of
places.  The point is left out before an empty part unless it is to be kept. -/
def positional (d : Decimal) (places : Nat) (keepPoint : Bool) : List Char :=
  let shown := d.point.toNat
  let whole := if shown = 0 then ['0'] else (d.digits.take shown).rightpad shown '0'
  let rest := List.replicate (-d.point).toNat '0' ++ d.digits.drop shown
  let rest := rest.rightpad places '0'
  whole ++ (if rest.isEmpty && !keepPoint then [] else '.' :: rest)

/-- One digit before the point, and the power of ten after a mark, with its sign
and at least two digits. -/
def scientific (d : Decimal) (places : Nat) (keepPoint : Bool) (mark : Char) : List Char :=
  let power := d.point - 1
  let sign := if power < 0 then '-' else '+'
  positional ⟨d.digits, 1⟩ places keepPoint
    ++ mark :: sign :: (Nat.toDigits 10 power.natAbs).leftpad 2 '0'

end Decimal

namespace Double

/-- The magnitude of a finite number as a fraction. -/
def ratio (mantissa : Nat) (exponent : Int) : Nat × Nat :=
  (mantissa * Nat.pow 2 exponent.toNat, Nat.pow 2 (-exponent).toNat)

/-- The digits of the shortest text: positional when the point stands from three
places before the first digit to sixteen after it, and then with at least one
place after the point. -/
def shortestText (mantissa : Nat) (exponent : Int) : List Char :=
  let d := Decimal.shortest mantissa exponent
  if -4 < d.point ∧ d.point ≤ 16 then d.positional 1 false else d.scientific 0 false 'e'

/-- The text of a number: the shortest one that reads back. -/
def text : Double → String
  | .nan => "nan"
  | .infinity negative => if negative then "-inf" else "inf"
  | .finite negative mantissa exponent _ =>
    let body := String.ofList (shortestText mantissa exponent)
    if negative then "-" ++ body else body

end Double

end CaseWorkflow
