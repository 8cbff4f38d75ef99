import CaseWorkflow.Text.Half

/-!
# Texts in units

A text as bytes in units of one, two or four bytes, the great end or the small end of a
unit first.  Units of two bytes come in pairs for the characters beyond the basic plane.
-/

namespace CaseWorkflow.Text

/-- The size of the units, and whether their small end comes first. -/
structure UnitForm where
  size : Nat
  smallFirst : Bool
  deriving DecidableEq

/-- The numbers of units of a size; none where bytes are left over. -/
def UnitForm.units? (form : UnitForm) : Nat → List UInt8 → Option (List Nat)
  | _, [] => some []
  | 0, _ => none
  | fuel + 1, bytes =>
    let unit := bytes.take form.size
    if unit.length < form.size then none
    else
      let ordered := if form.smallFirst then unit.reverse else unit
      (units? form fuel (bytes.drop form.size)).map
        (ordered.foldl (fun value b => value * 256 + b.toNat) 0 :: ·)

/-- The character with a code, or the one that stands for half of a pair. -/
def ofCode? (code : Nat) : Option Char :=
  if 0xD800 ≤ code && code < 0xE000 then some (ofHalf code)
  else if code < 0x110000 then some (Char.ofNat code)
  else none

/-- The characters of units of two bytes. -/
def ofPairs : List Nat → List Char
  | [] => []
  | high :: low :: rest =>
    if 0xD800 ≤ high && high < 0xDC00 && 0xDC00 ≤ low && low < 0xE000 then
      Char.ofNat (0x10000 + (high - 0xD800) * 0x400 + (low - 0xDC00)) :: ofPairs rest
    else (ofCode? high).toList ++ ofPairs (low :: rest)
  | unit :: rest => (ofCode? unit).toList ++ ofPairs rest

/-- The text that bytes are in units of two or four. -/
def UnitForm.decode? (form : UnitForm) (bytes : List UInt8) : Option (List Char) := do
  let units ← form.units? bytes.length bytes
  if form.size = 2 then return ofPairs units else units.mapM ofCode?

/-- The form of a text that begins with an ASCII character, told from the zeros among its
first bytes; none for units of one byte. -/
def UnitForm.detect (bytes : List UInt8) : Option UnitForm :=
  match bytes with
  | a :: b :: c :: d :: _ =>
    if a = 0 then some ⟨if b = 0 then 4 else 2, false⟩
    else if b = 0 then some ⟨if c = 0 && d = 0 then 4 else 2, true⟩
    else none
  | [a, b] => if a = 0 then some ⟨2, false⟩ else if b = 0 then some ⟨2, true⟩ else none
  | _ => none

end CaseWorkflow.Text
