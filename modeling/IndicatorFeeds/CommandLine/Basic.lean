import IndicatorFeeds.Application
import IndicatorFeeds.CommandLine.Arguments

namespace IndicatorFeeds.CommandLine

/-- How the process ends. -/
inductive Exit where
  | success
  /-- With the help that was asked for. -/
  | help
  /-- With an error and what lies behind it, outermost first. -/
  | failure (chain : List String)
  | usage
  /-- By a fault. -/
  | abort
deriving Repr, DecidableEq

private def indentLines (first others : String) (text : String) : String :=
  first ++ ("\n" ++ others).intercalate ((text.toList.splitOn '\n').map String.ofList)

private def numberedFrom (n : Nat) : List String → List String
  | [] => []
  | text :: rest =>
    let digits := toString n
    let padding := String.ofList (List.replicate (5 - digits.length) ' ')
    indentLines (padding ++ digits ++ ": ") "       " text :: numberedFrom (n + 1) rest

/-- An error as it is reported, with its causes below it. -/
def report : List String → String
  | [] => ""
  | message :: causes =>
    let lines := match causes with
      | [] => []
      | [cause] => ["", "Caused by:", indentLines "    " "    " cause]
      | causes => ["", "Caused by:"] ++ numberedFrom 0 causes
    "\n".intercalate (("Error: " ++ message) :: lines) ++ "\n"

namespace Exit

def code : Exit → Nat
  | success | help => 0
  | failure _ => 1
  | usage => 2
  | abort => 101

def text? : Exit → Option String
  | failure chain => some (report chain)
  | _ => none

end Exit

/-- Programs that may end with an error and what lies behind it. -/
abbrev Action := ExceptT (List String) Program

/-- An action whose errors are introduced by a message. -/
private def saying (message : String) (p : Program α) : Action α := do
  match ← p.attempt with
  | .ok a => return a
  | .error e => throw (message :: e.chain)

/-- Fails if a run has failed. -/
private def checkOutcome (name : String) : Outcome → Action Unit
  | .failed reason => throw [s!"run of job {name} failed: {reason}"]
  | _ => return ()

private def finish (app : Application) (name : String) (run : Run) : Action Unit := do
  let waiting : Program Outcome := app.perform fun _ => run.outcome
  checkOutcome name (← waiting)

private def inDays (days : UInt64) : Program Job.Schedule := do
  return ⟨days, .days, ← Program.now⟩

def perform (app : Application) : Command → Action Unit
  | .create name intervalDays => do
    let schedule ← inDays intervalDays
    let run ← saying s!"failed to create job {name}"
      (app.perform fun r => r.createJob name schedule)
    finish app name run
  | .update name intervalDays updateEnabled => do
    let schedule ← match intervalDays with
      | some days => do pure (some (← inDays days))
      | none => pure none
    let _ ← saying s!"failed to update job {name}"
      (app.perform fun r => r.updateJob name ⟨schedule, updateEnabled⟩)
  | .delete name =>
    saying s!"failed to delete job {name}" (app.perform fun r => r.deleteJob name)
  | .refresh name => do
    let run ← saying s!"failed to start refresh of job {name}"
      (app.perform fun r => r.refreshJob name)
    finish app name run
  | .tick name => do
    let handled : Program Outcome := app.perform fun r => (r.runJob name).outcome
    let _ ← handled

/-- The application that a process with this environment is to run. -/
def start (i : Invocation) (env : Environment) : Action Application := do
  match ← (Config.load { configPath := i.configPath, envFile := i.envFile } env).run with
  | .error e => throw ("failed to load configuration" :: e.chain)
  | .ok config =>
    match Application.build config with
    | .ok app => return app
    | .error (.error e) => throw (Application.buildFailure :: e.chain)
    | .error (.fault f) => ExceptT.lift (.fail (.fault f))

/-- Runs a process with these arguments and this environment to its end. -/
def run (arguments : List String) (env : Environment) : Program Exit :=
  match parse (env.get? Config.configVariable) arguments with
  | .error .help => return .help
  | .error .usage => return .usage
  | .ok i => do
    let action : Action Unit := do perform (← start i env) i.command
    match ← action.run with
    | .ok _ => return .success
    | .error chain => return .failure chain

/-- How a process ends that a failure has stopped. -/
def Exit.ofResult : Except Failure Exit → Exit
  | .ok exit => exit
  | .error (.error e) => .failure e.chain
  | .error (.fault _) => .abort

end IndicatorFeeds.CommandLine
