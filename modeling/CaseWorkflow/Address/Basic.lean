import CaseWorkflow.Address.Target

/-!
# Addresses

The scheme, the host, the path and the query that a request goes to.  A target gives
the scheme and the host; what is left of it is a target again, of which only the path
and the query count.
-/

namespace CaseWorkflow

structure Address where
  scheme : String
  /-- The host with its port; empty where it has characters that no host has. -/
  host : String
  path : String
  query : String
  deriving DecidableEq

namespace Address

def usualScheme : List Char := "http".toList

/-- The host to which an address without one goes. -/
def localHost : List Char := "localhost".toList

/-- The end of a host that names the port which its scheme has anyway. -/
def usualPort (scheme : List Char) : List Char :=
  if String.ofList scheme ∈ ["http", "ws"] then ":80".toList
  else if String.ofList scheme ∈ ["https", "wss"] then ":443".toList
  else []

/-- Whether a text is a colon and a port, or nothing. -/
def isPort : List Char → Bool
  | [] => true
  | ':' :: digits => !digits.isEmpty && digits.all Char.isDigit
  | _ => false

/-- Whether a name or an internet address, perhaps with a port, has the characters of
hosts only. -/
def isHost (cs : List Char) : Bool :=
  match cs with
  | '[' :: rest =>
    let groups := rest.takeWhile fun c => HostName.isHexDigit c || c == ':' || c == '.'
    let first := groups.takeWhile HostName.isHexDigit
    match rest.drop groups.length with
    | ']' :: port => (groups.drop first.length).head? = some ':' && first.length + 1 < groups.length
        && isPort port
    | _ => false
  | cs =>
    let name := cs.takeWhile fun c => c.isAlphanum || c == '.' || c == '-'
    !name.isEmpty && isPort (cs.drop name.length)

/-- The host of an authority as addresses show it. -/
def hostOf (scheme authority : List Char) : List Char :=
  let usual := usualPort scheme
  let host := if usual.isSuffixOf authority then authority.take (authority.length - usual.length)
    else authority
  if isHost host then host.map Char.toLower else []

/-- A path with percent escapes where they are needed.  What looks like a scheme or an
authority in it is written as such. -/
def wirePath (path : List Char) : Except AddressProblem (List Char) := do
  let target ← Target.read path
  if let some flaw := Text.unencodable? target.path then throw (.unencodable flaw)
  let authority ← Target.wireAuthority target.authority
  let written := Percent.encode ('%' :: Percent.pathMarks) target.path
  return Target.write target.scheme authority written

/-- Reads a target. -/
def ofTarget (text : String) : Except AddressProblem Address := do
  let outer ← Target.read text.toList
  let rest := outer.path ++ if outer.query.isEmpty then [] else '?' :: outer.query
  let inner ← Target.read rest
  let path ← wirePath inner.path
  let scheme := if outer.scheme.isEmpty then usualScheme else outer.scheme
  let authority ← Target.wireAuthority
    (if outer.authority.isEmpty then localHost else outer.authority)
  if let some flaw := Text.unencodable? rest then throw (.unencodable flaw)
  return {
    scheme := String.ofList scheme
    host := String.ofList (hostOf scheme authority)
    path := Percent.decode path
    query := String.ofList inner.query }

/-- The path with one slash at its start; an empty path stays empty. -/
def rooted (path : String) : List Char :=
  if path.isEmpty then [] else '/' :: path.toList.dropWhile (· == '/')

/-- Slashes in a row become one. -/
def mergeSlashes : List Char → List Char
  | [] => []
  | c :: cs =>
    let merged := mergeSlashes cs
    if c == '/' && merged.head? = some '/' then merged else c :: merged

/-- The parts of a path between its slashes. -/
def parts (path : List Char) : List String := ((path.splitOn '/').drop 1).map String.ofList

/-- The text of one side of an entry of a query, where a plus stands for a blank. -/
def queryText (cs : List Char) : String :=
  Percent.decode (cs.map fun c => if c == '+' then ' ' else c)

/-- The first value of a name in the query. -/
def query? (address : Address) (name : String) : Option String :=
  (address.query.toList.splitOn '&').findSome? fun entry =>
    let (key, value) := Target.cut '=' entry
    if queryText key = name then some (queryText value) else none

/-- The whole address of another path on the same host, with the same query. -/
def moved (address : Address) (path : String) : String :=
  String.ofList (Target.write address.scheme.toList address.host.toList
    (Percent.encode Percent.pathMarks path.toList))
    ++ if address.query.isEmpty then "" else "?" ++ address.query

/-- No two slashes stand in a row. -/
def Merged : List Char → Prop
  | a :: b :: cs => ¬ (a = '/' ∧ b = '/') ∧ Merged (b :: cs)
  | _ => True

theorem merged_mergeSlashes (cs : List Char) : Merged (mergeSlashes cs) := by
  induction cs with
  | nil => simp [mergeSlashes, Merged]
  | cons c cs ih =>
    simp only [mergeSlashes]
    split
    · exact ih
    · rename_i h
      match hm : mergeSlashes cs with
      | [] => simp [Merged]
      | d :: ds =>
        rw [hm] at ih h
        refine ⟨?_, ih⟩
        rintro ⟨rfl, rfl⟩
        simp at h

end Address

end CaseWorkflow
