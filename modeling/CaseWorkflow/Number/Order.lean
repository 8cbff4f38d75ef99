import CaseWorkflow.Number.Double

/-!
# The order of numbers

Integers and double precision numbers are compared by their exact values.  The
comparison answers `none` when one side is not a number.
-/

namespace CaseWorkflow

/-- The value `significand * 2 ^ exponent`. -/
structure BinaryFraction where
  significand : Int
  exponent : Int

namespace BinaryFraction

/-- The significand when the fraction is written with a smaller exponent. -/
def withExponent (x : BinaryFraction) (exponent : Int) : Int :=
  x.significand * Nat.pow 2 (x.exponent - exponent).toNat

def cmp (x y : BinaryFraction) : Ordering :=
  let least := min x.exponent y.exponent
  compare (x.withExponent least) (y.withExponent least)

theorem cmp_swap (x y : BinaryFraction) : (cmp x y).swap = cmp y x := by
  rw [cmp, cmp, Int.min_comm y.exponent]
  exact Int.compare_swap _ _

end BinaryFraction

/-- A place on the extended line of numbers. -/
inductive Place where
  | below
  | on (value : BinaryFraction)
  | above

namespace Place

def cmp : Place → Place → Ordering
  | .below, .below => .eq
  | .below, _ => .lt
  | _, .below => .gt
  | .above, .above => .eq
  | .above, _ => .gt
  | _, .above => .lt
  | .on x, .on y => x.cmp y

theorem cmp_swap (p q : Place) : (cmp p q).swap = cmp q p := by
  cases p <;> cases q <;> simp [cmp, BinaryFraction.cmp_swap]

end Place

/-- A number of either kind. -/
inductive Number where
  | int (value : Int)
  | float (value : Double)
  deriving DecidableEq

namespace Number

/-- Where a number stands, unless it is not a number. -/
def place? : Number → Option Place
  | .int i => some (.on ⟨i, 0⟩)
  | .float .nan => none
  | .float (.infinity negative) => some (if negative then .below else .above)
  | .float (.finite negative mantissa exponent _) =>
    some (.on ⟨Double.signed negative mantissa, exponent⟩)

def cmp? (x y : Number) : Option Ordering :=
  match x.place?, y.place? with
  | some p, some q => some (p.cmp q)
  | _, _ => none

def eq (x y : Number) : Bool := cmp? x y == some .eq

def lt (x y : Number) : Bool := cmp? x y == some .lt

def le (x y : Number) : Bool := lt x y || eq x y

theorem cmp?_swap (x y : Number) : (cmp? x y).map Ordering.swap = cmp? y x := by
  unfold cmp?
  cases x.place? <;> cases y.place? <;> simp [Place.cmp_swap]

/-- Whether the number is greater than zero. -/
def isPositive (x : Number) : Bool := lt (.int 0) x

def isZero (x : Number) : Bool := eq x (.int 0)

end Number

def Double.lt (x y : Double) : Bool := Number.lt (.float x) (.float y)

def Double.le (x y : Double) : Bool := Number.le (.float x) (.float y)

end CaseWorkflow
