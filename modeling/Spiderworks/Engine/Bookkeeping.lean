import Spiderworks.Engine.DirectResult
import Spiderworks.Engine.Error
import Spiderworks.Store.Shared

namespace Spiderworks.Bookkeeping

open Time (Instant)

-- Seconds with two places.
def secondsText (nanos : Nat) : String :=
  let hundredths := (nanos + 5000000) / 10000000
  String.ofList (Text.ofNat (hundredths / 100) ++ '.' :: Text.padded 2 (hundredths % 100)) ++ "s"

def quoted (name : String) : String := "\"" ++ name ++ "\""

-- Who runs, and as what.
structure Subject where
  spider : Int
  name : String
  execution : String
  deriving DecidableEq, Repr

def note (now : Instant) (s : Subject) (level : LogLevel) (source : LogSource) (message : String) :
    Session Unit := do
  let _ ← Session.appendLog now ⟨s.spider, level, source, message, some s.execution⟩

-- ### Runs

-- Each entry is made in one hold of the store, so nobody sees it half made; a request that is
-- refused ends it, and what came before it stays.
def markStarted (now : Instant) (s : Subject) : Session Unit := do
  Session.setStatus s.spider .running
  Session.countRun now s.spider
  note now s .info .spiderRunner
    ("Spider " ++ quoted s.name ++ " started with execution ID: " ++ s.execution)

-- The process has ended by itself.
def reconcile (now : Instant) (s : Subject) (code : Int) (nanos : Nat) : Session Unit := do
  let status := Status.ofExitCode code
  Session.setStatus s.spider status
  if status.isError then
    Session.countError s.spider
    note now s .error .spiderRunner
      ("Spider " ++ quoted s.name ++ " failed with exit code " ++ String.ofList (Text.ofInt code) ++
        " after " ++ secondsText nanos)
  else
    Session.countSuccess s.spider
    note now s .info .spiderRunner
      ("Spider " ++ quoted s.name ++ " completed successfully in " ++ secondsText nanos)

def recordFailure (now : Instant) (s : Subject) (e : EngineError) : Session Unit := do
  Session.setStatus s.spider .error
  Session.countError s.spider
  note now s .error .spiderRunner
    ("Spider " ++ quoted s.name ++ " execution failed: " ++ e.message)

-- A spider that is gone goes by its number.
def markStopped (now : Instant) (spider : Int) (execution : String) : Session Unit := do
  let name := match ← Session.spider? spider with
    | some s => s.name
    | none => String.ofList (Text.ofInt spider)
  Session.setStatus spider .stopped
  note now ⟨spider, name, execution⟩ .warning .spiderRunner
    ("Spider " ++ quoted name ++ " was stopped manually")

-- ### Direct calls

-- A call is let in when its spider has rested long enough. The check and the record of the call are
-- one entry, so that of two calls only one is let in; the run is counted at a time after the check.
def letIn (now later : Instant) (minutes : Nat) (spider : Int) (execution : String) :
    Session (Except EngineError Definition) := do
  match ← Session.spider? spider with
  | none => return .error (.notFound spider)
  | some s =>
    let minutes := RateLimit.intervalOf (← Session.setting? RateLimit.settingKey) minutes
    match RateLimit.check s.lastRun minutes now with
    | .deny remaining next => return .error (.rateLimited spider remaining next minutes)
    | .allow =>
      note now ⟨spider, s.name, execution⟩ .info .apiCall
        ("Direct call started for spider " ++ quoted s.name)
      Session.countRun later spider
      return .ok s.definition

def outcomeMessage (r : DirectResult) (nanos : Nat) : String :=
  if r.success then "Direct call succeeded: " ++ r.summary ++ " in " ++ secondsText nanos
  else "Direct call failed: " ++ r.summary ++ " after " ++ secondsText nanos

-- One entry in the log, and one of the two counters.
def recordOutcome (now : Instant) (s : Subject) (r : DirectResult) (nanos : Nat) :
    Session Unit := do
  note now s (if r.success then .info else .error) .apiCall (outcomeMessage r nanos)
  if r.success then Session.countSuccess s.spider else Session.countError s.spider

end Spiderworks.Bookkeeping
