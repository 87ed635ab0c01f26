import HostSnapshot.CommandLine.Arguments
import HostSnapshot.Session
import HostSnapshot.Snapshot.Text

namespace HostSnapshot.CommandLine

structure Report where
  output : String
  errors : String
  status : Nat
deriving DecidableEq, Repr

def padded (width : Nat) (s : String) : String :=
  s ++ String.ofList (List.replicate (width - s.length) ' ')

def Arguments.threshold (a : Arguments) : Nat :=
  if a.trace then Level.trace.severity
  else if a.debug then Level.debug.severity
  else Level.info.severity

def logLine (level : Level) (source message : String) : String :=
  padded 8 level.name ++ " | " ++ padded 10 source ++ " | " ++ message ++ "\n"

def logText (threshold : Nat) (events : List Event) : String :=
  String.join (events.filterMap fun
    | .logged level source message =>
      if threshold ≤ level.severity then some (logLine level source message) else none
    | .ran .. => none)

/-- A snapshot of the host, or what was learnt of it if its devices cannot be listed. -/
def snapshotOrLearnt (v : View) : Traced Snapshot :=
  tryCatch v.snapshot fun
    | .enumeration cause (some learnt) => do
      Traced.log .error "cli"
        s!"partition data unavailable: {(Fault.enumeration cause none).message}"
      return learnt
    | e => throw e

/-- What a command prints about a snapshot. A query that fails is an error of its own. -/
def Command.report (s : Snapshot) : Command → Traced Report
  | .get query => tryCatch (do return ⟨(← s.query query) ++ "\n", "", 0⟩) fun
    | .query expression problem =>
      return ⟨"", s!"Error: {(Fault.query expression problem).message}\n", 1⟩
    | e => throw e
  | .snapshot true => do
    let ms ← Traced.ofExcept s.dump
    let text ← Traced.ofExcept (((Json.obj ms).write (.indented 2)).mapError Fault.malformedInteger)
    return ⟨text ++ "\n", "", 0⟩
  | .snapshot false => return ⟨← s.render .plain, "", 0⟩

def Exit.report (e : Exit) : Report := ⟨e.output, e.errors, e.status⟩

def Arguments.report (a : Arguments) (host : Host) : Traced Report :=
  let traced : Traced Report := do
    a.command.report (← snapshotOrLearnt (View.ofRoot host a.hostRoot))
  ⟨traced.outcome.map fun r =>
    { r with errors := logText a.threshold traced.events ++ r.errors }, traced.events⟩

def run (host : Host) (arguments : List String) : Traced Report :=
  match Arguments.ofList host.environment.hostRoot arguments with
  | .ok a => a.report host
  | .error e => return e.report

end HostSnapshot.CommandLine
