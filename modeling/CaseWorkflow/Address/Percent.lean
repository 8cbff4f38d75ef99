import CaseWorkflow.Json.Reader

/-!
# Percent escapes

Percent escapes stand for bytes, and the bytes are read as UTF-8; a sequence that breaks
off shows as the replacement character.
-/

namespace CaseWorkflow.Percent

/-- The bytes that a text with percent escapes stands for. -/
def bytes : List Char → List UInt8
  | [] => []
  | '%' :: a :: b :: cs =>
    match Json.hexDigit? a, Json.hexDigit? b with
    | some x, some y => (x * 16 + y).toUInt8 :: bytes cs
    | _, _ => 37 :: bytes (a :: b :: cs)
  | c :: cs => String.utf8EncodeChar c ++ bytes cs

def replacement : Char := '\uFFFD'

/-- What a leading byte tells: how many bytes follow, its part of the code point, and
the range of the byte after it, which is narrower where a shorter sequence would do or
where no character is. -/
structure Lead where
  count : Nat
  value : Nat
  low : Nat
  high : Nat

def leadOf (b : UInt8) : Option Lead :=
  let n := b.toNat
  if 0xC2 ≤ n && n < 0xE0 then some ⟨1, n - 0xC0, 0x80, 0xBF⟩
  else if 0xE0 ≤ n && n < 0xF0 then
    some ⟨2, n - 0xE0, if n = 0xE0 then 0xA0 else 0x80, if n = 0xED then 0x9F else 0xBF⟩
  else if 0xF0 ≤ n && n < 0xF5 then
    some ⟨3, n - 0xF0, if n = 0xF0 then 0x90 else 0x80, if n = 0xF4 then 0x8F else 0xBF⟩
  else none

/-- The bytes at the start that continue a sequence. -/
def continuation (lead : Lead) : List UInt8 → List UInt8
  | [] => []
  | b :: rest =>
    if lead.low ≤ b.toNat && b.toNat ≤ lead.high then
      b :: (rest.take (lead.count - 1)).takeWhile fun b => 0x80 ≤ b.toNat && b.toNat ≤ 0xBF
    else []

/-- The character at the start of the bytes and how many more bytes belong to it. -/
def charOf (b : UInt8) (rest : List UInt8) : Char × Nat :=
  if b.toNat < 0x80 then (Char.ofNat b.toNat, 0)
  else
    match leadOf b with
    | none => (replacement, 0)
    | some lead =>
      let more := continuation lead rest
      let code := more.foldl (fun value b => value * 64 + (b.toNat - 0x80)) lead.value
      (if more.length = lead.count then Char.ofNat code else replacement, more.length)

/-- Reads bytes as UTF-8; `skip` of them belong to the character before. -/
def decodeFrom : Nat → List UInt8 → List Char
  | _, [] => []
  | skip + 1, _ :: rest => decodeFrom skip rest
  | 0, b :: rest =>
    let (c, count) := charOf b rest
    c :: decodeFrom count rest

/-- The text that a text with percent escapes stands for. -/
def decode (cs : List Char) : String := String.ofList (decodeFrom 0 (bytes cs))

/-- The characters that stand for themselves everywhere. -/
def isFree (c : Char) : Bool := c.isAlphanum || c ∈ ['_', '.', '-', '~']

/-- The marks that stand for themselves in a path. -/
def pathMarks : List Char := "!$&'()*+,/:;=@".toList

def escaped (b : UInt8) : List Char :=
  '%' :: ((Nat.toDigits 16 b.toNat).map Char.toUpper).leftpad 2 '0'

/-- The text with an escape for each character that neither stands for itself
everywhere nor is one of the marks. -/
def encode (marks cs : List Char) : List Char :=
  cs.flatMap fun c =>
    if isFree c || c ∈ marks then [c] else (String.utf8EncodeChar c).flatMap escaped

end CaseWorkflow.Percent
