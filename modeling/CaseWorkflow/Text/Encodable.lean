import CaseWorkflow.Text.Quoted

/-!
# Texts with an encoding

A text that is to leave the program is encoded in bytes, which half of a pair does not
allow.
-/

namespace CaseWorkflow.Text

/-- The first halves of a text: the code of the first of them, its place, and how many
of them stand in a row. -/
structure Unencodable where
  code : Nat
  place : Nat
  count : Nat
  deriving DecidableEq

def Unencodable.message (flaw : Unencodable) : String :=
  (if flaw.count = 1 then
    s!"'utf-8' codec can't encode character '{String.ofList (codeEscape flaw.code)}' "
      ++ s!"in position {flaw.place}"
  else
    s!"'utf-8' codec can't encode characters "
      ++ s!"in position {flaw.place}-{flaw.place + flaw.count - 1}")
    ++ ": surrogates not allowed"

/-- Finds the first half that is refused, with the halves that follow it. -/
def refusedHalves? (refused : Char → Bool) (cs : List Char) : Option Unencodable :=
  match cs.dropWhile (!refused ·) with
  | [] => none
  | c :: rest =>
    some ⟨codeOf c, (cs.takeWhile (!refused ·)).length, (rest.takeWhile isHalf).length + 1⟩

/-- Finds the first halves of a text. -/
def unencodable? (cs : List Char) : Option Unencodable := refusedHalves? isHalf cs

/-- Whether a half stands for a byte that is no part of an encoded text. -/
def isByteHalf (c : Char) : Bool := 0xDC80 ≤ codeOf c && codeOf c < 0xDD00 && isHalf c

/-- Finds the first halves of a text that do not stand for bytes. -/
def unencodableBytes? (cs : List Char) : Option Unencodable :=
  refusedHalves? (fun c => isHalf c && !isByteHalf c) cs

theorem unencodable?_eq_none {cs : List Char} (h : ∀ c ∈ cs, isHalf c = false) :
    unencodable? cs = none := by
  unfold unencodable?
  induction cs with
  | nil => rfl
  | cons c rest ih =>
    have hc : isHalf c = false := h c (by simp)
    have hr := ih fun d hd => h d (List.mem_cons_of_mem c hd)
    unfold refusedHalves? at hr ⊢
    rw [List.dropWhile_cons_of_pos (by simp [hc])]
    split at hr
    · rfl
    · simp at hr

end CaseWorkflow.Text
