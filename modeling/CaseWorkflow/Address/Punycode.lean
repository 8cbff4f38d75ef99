/-!
# Punycode

A label of letters of any script in letters and digits alone: first its ASCII
characters, then for each other character, in the order of their codes, how far it is
from the one before in code and place, as a number with digits of a varying base.
-/

namespace CaseWorkflow.Punycode

/-- The digits, which are the small letters and then the figures. -/
def digitOf (n : Nat) : Char := if n < 26 then Char.ofNat (97 + n) else Char.ofNat (22 + n)

/-- Where the digit at a position of a number ends it if it is smaller. -/
def threshold (position bias : Nat) : Nat :=
  if position ≤ bias then 1 else min (position - bias) 26

theorem one_le_threshold (position bias : Nat) : 1 ≤ threshold position bias := by
  unfold threshold
  split <;> omega

/-- The digits of a number from a position on, the least significant first. -/
def digits (bias position n : Nat) : List Char :=
  let t := threshold position bias
  if n < t then [digitOf n]
  else digitOf (t + (n - t) % (36 - t)) :: digits bias (position + 36) ((n - t) / (36 - t))
  termination_by n
  decreasing_by
    have h := one_le_threshold position bias
    have := Nat.div_le_self (n - threshold position bias) (36 - threshold position bias)
    omega

/-- Halves a distance by thirty-fives until it is small; counts the steps. -/
def damp (steps delta : Nat) : Nat × Nat :=
  if 455 < delta then damp (steps + 1) (delta / 35) else (steps, delta)
  termination_by delta
  decreasing_by exact Nat.div_lt_self (by omega) (by omega)

/-- The bias after a distance, with so many characters placed. -/
def adapt (delta placed : Nat) (isFirst : Bool) : Nat :=
  let delta := if isFirst then delta / 700 else delta / 2
  let (steps, delta) := damp 0 (delta + delta / placed)
  steps * 36 + 36 * delta / (delta + 38)

/-- The state while characters are placed. -/
structure Placing where
  written : List Char
  delta : Nat
  bias : Nat
  placed : Nat

/-- Passes a character of the label while those with a code are placed. -/
def Placing.pass (start code : Nat) (p : Placing) (c : Char) : Placing :=
  if c.toNat < code then { p with delta := p.delta + 1 }
  else if c.toNat = code then
    { written := p.written ++ digits p.bias 36 p.delta
      delta := 0
      bias := adapt p.delta (p.placed + 1) (p.placed = start)
      placed := p.placed + 1 }
  else p

/-- Places the characters with the given codes, which increase from the one after the
code before. -/
def placeAll (label : List Char) (start : Nat) : List Nat → Nat → Placing → Placing
  | [], _, p => p
  | code :: rest, before, p =>
    let p := { p with delta := p.delta + (code - before) * (p.placed + 1) }
    let p := label.foldl (Placing.pass start code) p
    placeAll label start rest (code + 1) { p with delta := p.delta + 1 }

def encode (label : List Char) : List Char :=
  let plain := label.filter (·.toNat < 0x80)
  let codes := (((label.map Char.toNat).filter (0x80 ≤ ·)).mergeSort (· ≤ ·)).eraseDups
  plain ++ (if plain.isEmpty then [] else ['-'])
    ++ (placeAll label plain.length codes 0x80 ⟨[], 0, 72, plain.length⟩).written

end CaseWorkflow.Punycode
