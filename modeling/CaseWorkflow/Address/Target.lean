import CaseWorkflow.Address.HostName
import CaseWorkflow.Address.Percent

/-!
# Targets

The text that a request is sent to, taken apart: a scheme before a colon, an authority
after two slashes, a path, and a query after a question mark.  A fragment is left out.
-/

namespace CaseWorkflow

structure Target where
  scheme : List Char
  authority : List Char
  path : List Char
  query : List Char
  deriving DecidableEq

namespace Target

/-- Splits a text at the first character of a kind, which is dropped. -/
def cut (mark : Char) (cs : List Char) : List Char × List Char :=
  (cs.takeWhile (· != mark), (cs.dropWhile (· != mark)).drop 1)

/-- Characters that are skipped at the start. -/
def isLeading (c : Char) : Bool := c.toNat ≤ 0x20

/-- Characters that are skipped wherever they stand. -/
def isSkipped (c : Char) : Bool := c == '\t' || c == '\r' || c == '\n'

def isSchemeChar (c : Char) : Bool := c.isAlphanum || c ∈ ['+', '-', '.']

/-- The scheme in small letters, and what follows it. -/
def splitScheme (cs : List Char) : List Char × List Char :=
  let name := cs.takeWhile (· != ':')
  if name.length < cs.length && (name.head?.any Char.isAlpha) && name.all isSchemeChar then
    (name.map Char.toLower, cs.drop (name.length + 1))
  else ([], cs)

def endsAuthority (c : Char) : Bool := c == '/' || c == '?' || c == '#'

/-- The authority after two slashes, and what follows it. -/
def splitAuthority : List Char → List Char × List Char
  | '/' :: '/' :: rest => (rest.takeWhile (!endsAuthority ·), rest.dropWhile (!endsAuthority ·))
  | cs => ([], cs)

def checkBrackets (authority : List Char) : Except AddressProblem Unit :=
  match authority.contains '[', authority.contains ']' with
  | false, false => .ok ()
  | true, true => HostName.checkBracketed (cut ']' (cut '[' authority).2).1
  | _, _ => .error .unbalancedBrackets

/-- Characters that are compositions with one of the marks that take a target apart. -/
def hidesMark (c : Char) : Bool :=
  c ∈ ['\u2048', '\u2049', '\u2047', '\u2100', '\u2101', '\u2105', '\u2106', '\u2A74', '\uFE13',
    '\uFE16', '\uFE55', '\uFE56', '\uFE5F', '\uFE6B', '\uFF03', '\uFF0F', '\uFF1A', '\uFF1F',
    '\uFF20']

/-- Takes a target apart. -/
def read (cs : List Char) : Except AddressProblem Target := do
  let (scheme, rest) := splitScheme ((cs.dropWhile isLeading).filter (!isSkipped ·))
  let (authority, rest) := splitAuthority rest
  checkBrackets authority
  if authority.any hidesMark then throw (.hiddenMark (String.ofList authority))
  let (path, query) := cut '?' (cut '#' rest).1
  return ⟨scheme, authority, path, query⟩

/-- The schemes whose targets have an authority, be it an empty one. -/
def hasAuthority (scheme : List Char) : Bool :=
  String.ofList scheme ∈ ["ftp", "http", "gopher", "nntp", "telnet", "imap", "wais", "file", "mms",
    "https", "shttp", "snews", "prospero", "rtsp", "rtsps", "rtspu", "rsync", "svn", "svn+ssh",
    "sftp", "nfs", "git", "git+ssh", "ws", "wss"]

/-- The text of a target without a query. -/
def write (scheme authority path : List Char) : List Char :=
  let withSlash := if path.isEmpty || path.head? = some '/' then path else '/' :: path
  let rest :=
    if !authority.isEmpty || hasAuthority scheme || ['/', '/'].isPrefixOf path then
      '/' :: '/' :: authority ++ withSlash
    else path
  if scheme.isEmpty then rest else scheme ++ ':' :: rest

/-- The part of an authority before the last mark of a user, if it has one, and the part
that names the host. -/
def splitUser (authority : List Char) : Option (List Char) × List Char :=
  let host := (authority.reverse.takeWhile (· != '@')).reverse
  if host.length = authority.length then (none, host)
  else (some (authority.take (authority.length - host.length - 1)), host)

/-- The name of the host and its port, as they are written. -/
def splitHost (host : List Char) : List Char × List Char :=
  if host.contains '[' then
    let (name, rest) := cut ']' (cut '[' host).2
    (name, (cut ':' rest).2)
  else cut ':' host

/-- The name of a host in small letters, except for the zone after a percent sign. -/
def hostName (cs : List Char) : List Char :=
  let name := cs.takeWhile (· != '%')
  (Text.lower (String.ofList name)).toList ++ cs.drop name.length

/-- The marks that stand for themselves in the name of a user. -/
def userMarks : List Char := "%!$&'()*+,;=".toList

/-- The user and the password of an authority, unless the user has no name. -/
def userText (user : List Char) : List Char :=
  let (name, password) := cut ':' user
  if name.isEmpty then []
  else Percent.encode userMarks name
    ++ (if password.isEmpty then [] else ':' :: Percent.encode userMarks password) ++ ['@']

/-- The port of an authority; none is as good as zero. -/
def port (cs : List Char) : Except AddressProblem Nat :=
  if cs.isEmpty then .ok 0
  else if !cs.all Char.isDigit then .error (.portUnreadable (String.ofList cs))
  else if 65535 < Text.ofDigits cs then .error .portOutOfRange
  else .ok (Text.ofDigits cs)

def wireAuthority (authority : List Char) : Except AddressProblem (List Char) := do
  let (user, host) := splitUser authority
  let (name, portText) := splitHost host
  let name ← HostName.wire (hostName name)
  let port ← port portText
  return userText (user.getD [])
    ++ (if name.contains ':' then '[' :: name ++ [']'] else name)
    ++ if port = 0 then [] else ':' :: (toString port).toList

end Target

end CaseWorkflow
