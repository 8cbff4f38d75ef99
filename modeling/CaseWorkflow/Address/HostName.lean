import CaseWorkflow.Address.Punycode
import CaseWorkflow.Text.Digit
import CaseWorkflow.Text.Encodable
import CaseWorkflow.Text.LowerCase

/-!
# Host names

The names of hosts in addresses.  A name is a row of labels with dots between them; a
label with letters beyond ASCII is written in Punycode under a mark.  In square brackets
stands an internet address of the sixth version, or a form for versions to come.
-/

namespace CaseWorkflow

/-- Why a target names no address. -/
inductive AddressProblem where
  | unbalancedBrackets
  | noInternetAddress (text : String)
  | fourthVersionInBrackets
  | badFutureVersion
  | hiddenMark (authority : String)
  | portUnreadable (text : String)
  | portOutOfRange
  | labelEmptyOrTooLong
  | labelTooLong
  | labelMarked
  | unencodable (flaw : Text.Unencodable)
  deriving DecidableEq

namespace AddressProblem

/-- Whether the problem is one of a label. -/
def isOfLabel : AddressProblem → Bool
  | .labelEmptyOrTooLong | .labelTooLong | .labelMarked => true
  | _ => false

def labelMessage (reason : String) : String :=
  s!"encoding with 'idna' codec failed (UnicodeError: {reason})"

def message : AddressProblem → String
  | .unbalancedBrackets => "Invalid IPv6 URL"
  | .noInternetAddress text =>
    Text.quoted text ++ " does not appear to be an IPv4 or IPv6 address"
  | .fourthVersionInBrackets => "An IPv4 address cannot be in brackets"
  | .badFutureVersion => "IPvFuture address is invalid"
  | .hiddenMark authority =>
    s!"netloc '{authority}' contains invalid characters under NFKC normalization"
  | .portUnreadable text => "Port could not be cast to integer value as " ++ Text.quoted text
  | .portOutOfRange => "Port out of range 0-65535"
  | .labelEmptyOrTooLong => labelMessage "label empty or too long"
  | .labelTooLong => labelMessage "label too long"
  | .labelMarked => labelMessage "Label starts with ACE prefix"
  | .unencodable flaw => flaw.message

end AddressProblem

namespace HostName

def isHexDigit (c : Char) : Bool :=
  c.isDigit || ('a' ≤ c && c ≤ 'f') || ('A' ≤ c && c ≤ 'F')

/-- Splits a text at each occurrence of a mark. -/
def split (mark : Char) (cs : List Char) : List (List Char) := cs.splitOn mark

/-- Whether a part of an address of the fourth version is a number below 256 without
zeros before it. -/
def isOctet (cs : List Char) : Bool :=
  !cs.isEmpty && cs.all Char.isDigit && cs.length ≤ 3 && (cs.length = 1 || cs.head? ≠ some '0')
    && Text.ofDigits cs < 256

/-- Whether a text is an internet address of the fourth version. -/
def isFourth (cs : List Char) : Bool :=
  let octets := split '.' cs
  octets.length = 4 && octets.all isOctet

def isGroup (cs : List Char) : Bool := cs.all isHexDigit && cs.length ≤ 4

/-- Whether groups make an address of the sixth version: eight of them, or fewer with
one gap, which is an empty group between others.  An empty group at an end belongs to a
gap beside it. -/
def areGroups (groups : List (List Char)) : Bool :=
  let inner := (groups.drop 1).dropLast
  let first := (groups.head?.getD []).isEmpty
  let last := (groups.getLast?.getD []).isEmpty
  groups.all isGroup && groups.length ≤ 9 &&
    match (List.range inner.length).filter fun i => inner[i]? = some [] with
    | [] => groups.length = 8 && !first && !last
    | [gap] =>
      let before := gap + 1
      let after := inner.length - gap
      (!first || before = 1) && (!last || after = 1)
        && before + after - first.toNat - last.toNat < 8
    | _ => false

/-- Whether a text is an internet address of the sixth version; its end may be one of
the fourth version, and a zone may follow. -/
def isSixth (cs : List Char) : Bool :=
  let address := cs.takeWhile (· != '%')
  let zone := cs.drop address.length
  let groups := split ':' address
  let last := groups.getLast?.getD []
  (zone.isEmpty || (1 < zone.length && !(zone.drop 1).contains '%'))
    && 3 ≤ groups.length
    && if last.contains '.' then isFourth last && areGroups (groups.dropLast ++ [['0'], ['0']])
      else areGroups groups

/-- The name of a version to come: a mark, hexadecimal digits, a dot and a text on one
line. -/
def isFuture (cs : List Char) : Bool :=
  let version := (cs.drop 1).takeWhile isHexDigit
  !version.isEmpty &&
    match cs.drop (version.length + 1) with
    | '.' :: rest => !rest.isEmpty && !rest.contains '\n'
    | _ => false

def checkBracketed (cs : List Char) : Except AddressProblem Unit :=
  if cs.head? = some 'v' then if isFuture cs then .ok () else .error .badFutureVersion
  else if isFourth cs then .error .fourthVersionInBrackets
  else if isSixth cs then .ok ()
  else .error (.noInternetAddress (String.ofList cs))

/-- The dots that separate labels. -/
def isDot (c : Char) : Bool := c ∈ ['.', '\u3002', '\uFF0E', '\uFF61']

/-- Characters without a meaning in names. -/
def isIdle (c : Char) : Bool :=
  c ∈ ['\u00AD', '\u034F', '\u1806', '\u180B', '\u180C', '\u180D', '\u200B', '\u200C', '\u200D',
    '\u2060', '\uFEFF'] || (0xFE00 ≤ c.toNat && c.toNat ≤ 0xFE0F)

/-- The character that a name has in the place of another one. -/
def plainForm (c : Char) : List Char :=
  if isIdle c then []
  else if c == 'ß' then ['s', 's']
  else if c == 'ς' then ['σ']
  else if 0xFF01 ≤ c.toNat && c.toNat ≤ 0xFF5E then [(Char.ofNat (c.toNat - 0xFEE0)).toLower]
  else Text.lowerChar c

def labelMark : List Char := "xn--".toList

def checked (label : List Char) : Except AddressProblem (List Char) :=
  if 0 < label.length ∧ label.length < 64 then .ok label else .error .labelEmptyOrTooLong

def wireLabel (label : List Char) : Except AddressProblem (List Char) :=
  if label.all (·.toNat < 0x80) then checked label
  else
    let label := label.flatMap plainForm
    if label.all (·.toNat < 0x80) then checked label
    else if labelMark.isPrefixOf label then .error .labelMarked
    else checked (labelMark ++ Punycode.encode label)

def labels (cs : List Char) : List (List Char) :=
  split '.' (cs.map fun c => if isDot c then '.' else c)

/-- A name in ASCII.  A dot may end it. -/
def wire (cs : List Char) : Except AddressProblem (List Char) :=
  if cs.isEmpty then .ok []
  else if cs.all (·.toNat < 0x80) then
    if !(split '.' cs).dropLast.all (fun label => 0 < label.length && label.length < 64) then
      .error .labelEmptyOrTooLong
    else if 64 ≤ ((split '.' cs).getLast?.getD []).length then .error .labelTooLong
    else .ok cs
  else do
    let parts := labels cs
    let ended := (parts.getLast?.getD []).isEmpty
    let written ← (if ended then parts.dropLast else parts).mapM wireLabel
    return ['.'].intercalate written ++ if ended then ['.'] else []

end HostName

end CaseWorkflow
