import CaseWorkflow.Site

/-!
# The command line

Runs a worker.  Each line of the input is an event in JSON, which is put on the queue;
at the end of the input the worker handles what the queue holds, and its state is
printed.  The settings come from the environment.  The first argument, if there is
one, is the time in seconds since the start of 1970.
-/

namespace CaseWorkflow.Console

def environment : IO Settings.Environment :=
  Settings.variableNames.filterMapM fun name => do return (← IO.getEnv name).map (name, ·)

/-- The installation before it is set up, with its clock at the time given. -/
def siteAt (arguments : List String) : Except Fault Site := do
  match arguments with
  | [] => return Site.bare
  | time :: _ => return { Site.bare with seconds := ← (readFloat time).mapError .number }

def plan (environment : Settings.Environment) : Plan where
  environment := environment
  capabilities := none
  origin := .configured
  queueName := ""
  leaseSeconds := .null
  served := true

/-- Sets the installation up, if the settings of its log are sound. -/
def setUp (environment : Settings.Environment) : Attempt Site Unit := do
  Site.loadSettings environment
  Attempt.ofExcept (← Attempt.get).settings.checkLog
  Site.setUp (plan environment)

/-- Runs the worker until the queue is empty; answers its state. -/
def work : Attempt Site Value := do
  let site ← Attempt.get
  Site.onStation do
    Station.start site.clock .terminate
    Station.stats site.clock

def printNote (note : Note) : IO Unit :=
  IO.eprintln s!"{note.level.name} {note.writer.name}: {note.message}"

/-- Makes an attempt and prints its notes, and its fault if it ends in one. -/
def make {α : Type} (attempt : Attempt Site α) (site : Site) : IO (Option α × Site) := do
  let outcome := attempt.run site
  outcome.notes.forM printNote
  match outcome.result with
  | .ok a => return (some a, outcome.state)
  | .error fault =>
    IO.eprintln fault.message
    return (none, outcome.state)

/-- Publishes the events of the lines that are left. -/
partial def publishLines (input : IO.FS.Stream) (site : Site) : IO Site := do
  let line ← input.getLine
  if line.isEmpty then return site
  if Text.allBlank line then publishLines input site
  else
    let (_, site) ← make (Site.publishText line) site
    publishLines input site

end CaseWorkflow.Console

open CaseWorkflow in
def main (arguments : List String) : IO UInt32 := do
  match Console.siteAt arguments with
  | .error fault =>
    IO.eprintln fault.message
    return 2
  | .ok site =>
    let (ready, site) ← Console.make (Console.setUp (← Console.environment)) site
    if ready.isNone then return 1
    let site ← Console.publishLines (← IO.getStdin) site
    let (stats, _) ← Console.make Console.work site
    match stats with
    | some stats =>
      IO.println (Json.write stats)
      return 0
    | none => return 1
