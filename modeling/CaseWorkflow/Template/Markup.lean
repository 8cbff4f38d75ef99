/-!
# Template markup

A template is literal text with replacement fields in braces; a doubled brace
stands for itself.  A field has a name, perhaps a conversion after an
exclamation mark, and perhaps a format after a colon, which may hold fields of
its own.
-/

namespace CaseWorkflow.Template

/-- A replacement field as it is written. -/
structure Field where
  name : List Char
  conversion : Option Char
  format : List Char
  deriving DecidableEq

/-- Literal text, and the field after it if there is one. -/
structure Piece where
  literal : List Char
  field : Option Field
  deriving DecidableEq

/-- The pieces of a text, up to its end or to the first flaw. -/
structure Markup where
  pieces : List Piece
  sound : Bool
  deriving DecidableEq

def isBrace (c : Char) : Bool := c == '\x7b' || c == '\x7d'

/-- The name of a field, the character that ends it, and what follows.  Nothing
ends a name inside square brackets. -/
def fieldName (bracketed : Bool) : List Char → Option (List Char × Char × List Char)
  | [] => none
  | c :: cs =>
    if bracketed then
      (fieldName (c != ']') cs).map fun (name, stop, rest) => (c :: name, stop, rest)
    else if c == '\x7b' then none
    else if c == '\x7d' || c == ':' || c == '!' then some ([], c, cs)
    else (fieldName (c == '[') cs).map fun (name, stop, rest) => (c :: name, stop, rest)

/-- The text up to the brace that closes it, with so many braces open inside. -/
def balanced (depth : Nat) : List Char → Option (List Char × List Char)
  | [] => none
  | c :: cs =>
    if c == '\x7d' then
      match depth with
      | 0 => some ([], cs)
      | depth + 1 => (balanced depth cs).map fun (inner, rest) => (c :: inner, rest)
    else
      (balanced (if c == '\x7b' then depth + 1 else depth) cs).map fun (inner, rest) =>
        (c :: inner, rest)

/-- The format of a field, which follows its colon. -/
def withFormat (name : List Char) (conversion : Option Char) (cs : List Char) :
    Option (Field × List Char) :=
  (balanced 0 cs).map fun (format, rest) => (⟨name, conversion, format⟩, rest)

/-- A field, read after its opening brace. -/
def readField (cs : List Char) : Option (Field × List Char) :=
  match fieldName false cs with
  | none => none
  | some (name, stop, rest) =>
    if stop == '\x7d' then some (⟨name, none, []⟩, rest)
    else if stop == ':' then withFormat name none rest
    else
      match rest with
      | conversion :: '\x7d' :: rest => some (⟨name, some conversion, []⟩, rest)
      | conversion :: ':' :: rest => withFormat name (some conversion) rest
      | _ => none

def Markup.cons (piece : Piece) (markup : Markup) : Markup :=
  { markup with pieces := piece :: markup.pieces }

/-- Splits a text into pieces.  The length of the text is fuel enough. -/
def Markup.parse : Nat → List Char → Markup
  | 0, cs => ⟨[], cs.isEmpty⟩
  | fuel + 1, cs =>
    let literal := cs.takeWhile (!isBrace ·)
    match cs.dropWhile (!isBrace ·) with
    | [] => ⟨if literal.isEmpty then [] else [⟨literal, none⟩], true⟩
    | brace :: rest =>
      match rest with
      | [] => ⟨[], false⟩
      | next :: after =>
        if next == brace then (parse fuel after).cons ⟨literal ++ [brace], none⟩
        else if brace == '\x7d' then ⟨[], false⟩
        else
          match readField rest with
          | none => ⟨[], false⟩
          | some (field, rest) => (parse fuel rest).cons ⟨literal, some field⟩

/-- The markup of a whole text. -/
def Markup.of (cs : List Char) : Markup := Markup.parse (cs.length + 1) cs

end CaseWorkflow.Template
