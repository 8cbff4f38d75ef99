/-!
# Halves of pairs

A JSON text can name a code unit that is half of a pair where the other half is
missing.  No character is such a half, so a private character stands for it, and the
half is what is written in its place.
-/

namespace CaseWorkflow.Text

/-- The distance of a half from the private character that stands for it. -/
def halfDistance : Nat := 0x100000

/-- The character that stands for half of a pair. -/
def ofHalf (unit : Nat) : Char := Char.ofNat (unit + halfDistance)

def isHalf (c : Char) : Bool :=
  0xD800 + halfDistance ≤ c.toNat && c.toNat < 0xE000 + halfDistance

/-- The code of a character, or the half that it stands for. -/
def codeOf (c : Char) : Nat := if isHalf c then c.toNat - halfDistance else c.toNat

theorem codeOf_of_not_isHalf {c : Char} (h : isHalf c = false) : codeOf c = c.toNat := by
  simp [codeOf, h]

end CaseWorkflow.Text
