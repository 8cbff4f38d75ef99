/-!
# Double precision numbers

Binary floating point numbers with 53 significant bits, as exact fractions
`mantissa * 2 ^ exponent` with a sign, two infinities and one not-a-number.
Each finite number has one form, and results are rounded to the nearest number,
a tie to the even mantissa.
-/

namespace CaseWorkflow

/-- The nearest natural number to a quotient; of two equally near, the even one. -/
def roundHalfEven (num den : Nat) : Nat :=
  let floor := num / den
  let rest := num % den
  if 2 * rest < den then floor
  else if den < 2 * rest then floor + 1
  else if floor % 2 = 0 then floor
  else floor + 1

theorem roundHalfEven_one (num : Nat) : roundHalfEven num 1 = num := by
  simp [roundHalfEven, Nat.mod_one]

theorem div_le_roundHalfEven (num den : Nat) : num / den ≤ roundHalfEven num den := by
  simp only [roundHalfEven]
  repeat' split
  all_goals omega

theorem roundHalfEven_le (num den : Nat) : roundHalfEven num den ≤ num / den + 1 := by
  simp only [roundHalfEven]
  repeat' split
  all_goals omega

/-- The least number with more than 53 bits. -/
def mantissaLimit : Nat := 0x20000000000000

/-- The least number with 53 bits. -/
def fullMantissa : Nat := 0x10000000000000

/-- The pairs of mantissa and exponent in use: at most 53 bits, the highest one
set unless the exponent is the least. -/
def Canonical (mantissa : Nat) (exponent : Int) : Prop :=
  mantissa < mantissaLimit ∧ -1074 ≤ exponent ∧ exponent ≤ 971
    ∧ (fullMantissa ≤ mantissa ∨ exponent = -1074)

instance (mantissa : Nat) (exponent : Int) : Decidable (Canonical mantissa exponent) := by
  unfold Canonical; infer_instance

inductive Double where
  | nan
  | infinity (negative : Bool)
  | finite (negative : Bool) (mantissa : Nat) (exponent : Int)
      (canonical : Canonical mantissa exponent)
  deriving DecidableEq

namespace Double

/-- The number with this form, or an infinity when the exponent is out of range. -/
def pack (negative : Bool) (mantissa : Nat) (exponent : Int) : Double :=
  if h : Canonical mantissa exponent then .finite negative mantissa exponent h
  else .infinity negative

def zeroOf (negative : Bool) : Double := .finite negative 0 (-1074) (by decide)

/-- The fraction `num / den` counted in units of `2 ^ exponent`, again as a fraction. -/
def inUnits (num den : Nat) (exponent : Int) : Nat × Nat :=
  (num * Nat.pow 2 (-exponent).toNat, den * Nat.pow 2 exponent.toNat)

/-- The exponent at which the fraction `num / den` has a mantissa of 53 bits, but
not below the least one. -/
def exponentFor (num den : Nat) : Int :=
  let guess : Int := num.log2 - den.log2 - 53
  let (scaled, unit) := inUnits num den guess
  max (-1074) (if mantissaLimit ≤ scaled / unit then guess + 1 else guess)

/-- The number nearest to a fraction. -/
def ofRatio (negative : Bool) (num den : Nat) : Double :=
  if num = 0 then zeroOf negative
  else
    let exponent := exponentFor num den
    let (scaled, unit) := inUnits num den exponent
    let mantissa := roundHalfEven scaled unit
    if mantissa = mantissaLimit then pack negative fullMantissa (exponent + 1)
    else pack negative mantissa exponent

/-- The number nearest to `count * 2 ^ exponent`. -/
def ofScaled (negative : Bool) (count : Nat) (exponent : Int) : Double :=
  ofRatio negative (count * Nat.pow 2 exponent.toNat) (Nat.pow 2 (-exponent).toNat)

/-- The number nearest to `count * 10 ^ exponent`.  Far outside the range the
answer is known without computing the power. -/
def ofDecimal (negative : Bool) (count : Nat) (exponent : Int) : Double :=
  let magnitude : Int := exponent + (Nat.toDigits 10 count).length
  if count = 0 || magnitude < -400 then zeroOf negative
  else if 400 < magnitude then .infinity negative
  else ofRatio negative (count * Nat.pow 10 exponent.toNat) (Nat.pow 10 (-exponent).toNat)

/-- The number nearest to an integer, if one is near enough to be finite. -/
def ofInt? (i : Int) : Option Double :=
  match ofRatio (i < 0) i.natAbs 1 with
  | .finite negative mantissa exponent h => some (.finite negative mantissa exponent h)
  | _ => none

/-- A natural number of up to 53 bits, which is represented exactly. -/
def ofNat (n : Nat) : Double := ofRatio false n 1

def signed (negative : Bool) (magnitude : Nat) : Int :=
  if negative then -(magnitude : Int) else magnitude

/-- The sum, rounded to the nearest number. -/
def add : Double → Double → Double
  | .nan, _ => .nan
  | _, .nan => .nan
  | .infinity a, .infinity b => if a == b then .infinity a else .nan
  | .infinity a, .finite .. => .infinity a
  | .finite .., .infinity b => .infinity b
  | .finite a m e _, .finite b n f _ =>
    let least := min e f
    let sum := signed a (m * Nat.pow 2 (e - least).toNat)
      + signed b (n * Nat.pow 2 (f - least).toNat)
    if sum = 0 then zeroOf (a && b) else ofScaled (sum < 0) sum.natAbs least

/-- The product with a natural number, rounded to the nearest number. -/
def scale (factor : Nat) : Double → Double
  | .finite negative mantissa exponent _ => ofScaled negative (mantissa * factor) exponent
  | d => d

/-- The nearest integer; of two equally near, the even one. -/
def round? : Double → Option Int
  | .finite negative mantissa exponent _ =>
    let (num, den) := inUnits mantissa 1 (-exponent)
    some (signed negative (roundHalfEven num den))
  | _ => none

/-- The part before the point and the part after it, both with the number's sign. -/
def split : Double → Option (Int × Double)
  | .finite negative mantissa exponent _ =>
    let unit := Nat.pow 2 (-exponent).toNat
    let whole := mantissa * Nat.pow 2 exponent.toNat
    some (signed negative (whole / unit), ofRatio negative (whole % unit) unit)
  | _ => none

instance : Inhabited Double := ⟨.nan⟩

end Double

end CaseWorkflow
