import CaseWorkflow.Attempt

/-!
# Responses

A response has a status and data, a page, or nothing at all.  Days and moments in the
data are shown as in the headers of web answers.
-/

namespace CaseWorkflow

namespace Value

mutual

/-- The value with its days and moments as texts.  A moment must be in the calendar also
in universal time. -/
def forWeb : Value → Except Fault Value
  | .list items => do return .list (← itemsForWeb items)
  | .object entries => do return .object (← entriesForWeb entries)
  | .date d => .ok (.text d.headerMoment)
  | .moment m =>
    match m.headerText? with
    | some shown => .ok (.text shown)
    | none => .error (.tooLarge "date value out of range")
  | v => .ok v

def itemsForWeb : List Value → Except Fault (List Value)
  | [] => .ok []
  | item :: rest => do return (← forWeb item) :: (← itemsForWeb rest)

def entriesForWeb : List (String × Value) → Except Fault (List (String × Value))
  | [] => .ok []
  | (key, value) :: rest => do return (key, ← forWeb value) :: (← entriesForWeb rest)

end

end Value

inductive Content where
  | nothing
  | data (v : Value)
  /-- Data that only the head of an answer speaks of. -/
  | withheld
  | page (text : String)

structure Response where
  status : Nat
  content : Content

namespace Response

/-- An answer that shows a value. -/
def data (status : Nat) (v : Value) : Response := ⟨status, .data v⟩

def json (status : Nat) (entries : Entries) : Response := data status (.object entries)

def noContent : Response := ⟨204, .nothing⟩

/-- An answer without data. -/
def blank : Response := ⟨200, .nothing⟩

/-- The response with its data as the web shows them. -/
def forWeb (r : Response) : Except Fault Response :=
  match r.content with
  | .data v => do return { r with content := .data (← v.forWeb) }
  | _ => .ok r

/-- The answer to a request for the head only. -/
def headOnly (r : Response) : Response :=
  match r.content with
  | .data _ => { r with content := .withheld }
  | _ => { r with content := .nothing }

/-- A text in a page, where some characters stand for markup. -/
def inPage (s : String) : String :=
  String.join (s.toList.map fun c =>
    match c with
    | '&' => "&amp;"
    | '<' => "&lt;"
    | '>' => "&gt;"
    | '\'' => "&#39;"
    | '"' => "&#34;"
    | c => String.singleton c)

/-- Sends the request to another address. -/
def elsewhere (address : String) : Response :=
  let shown := inPage address
  ⟨308, .page ("<!doctype html>\n<html lang=en>\n<title>Redirecting...</title>\n"
    ++ "<h1>Redirecting...</h1>\n<p>You should be redirected automatically to the target URL: "
    ++ "<a href=\"" ++ shown ++ "\">" ++ shown ++ "</a>. If not, click the link.\n")⟩

/-- A refusal in one sentence. -/
def refusal (status : Nat) (message : String) : Response := json status [("error", .text message)]

def problems (invalid : Invalid) : Response :=
  json 400 [("error", .text invalid.message),
    ("problems", .list (invalid.messages.map .text))]

/-- An error of the service itself. -/
def failure (status : Nat) (name message : String) (more : Entries) : Response :=
  json status [("error",
    .object ([("code", .int status), ("name", .text name), ("message", .text message)] ++ more))]

def notFound : Response :=
  failure 404 "Not Found"
    ("The requested URL was not found on the server. If you entered the URL manually please "
      ++ "check your spelling and try again.") []

def methodNotAllowed : Response :=
  failure 405 "Method Not Allowed" "The method is not allowed for the requested URL." []

/-- The answer to a fault that no route has answered. -/
def ofFault : Fault → Response
  | .invalid i =>
    failure 400 "Bad Request" i.message [("problems", .list (i.messages.map .text))]
  | .instanceMissing id => failure 404 "Not Found" (Fault.instanceMissing id).message []
  | .templateMissing id => failure 404 "Not Found" (Fault.templateMissing id).message []
  | .missing message => failure 404 "Not Found" message []
  | _ => failure 500 "Internal Server Error" "An unexpected error occurred" []

/-- Whether a fault is answered without a note in the journal. -/
def isExpected : Fault → Bool
  | .invalid _ | .instanceMissing _ | .templateMissing _ | .missing _ => true
  | _ => false

end Response

end CaseWorkflow
