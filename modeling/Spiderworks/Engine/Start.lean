import Spiderworks.Engine.Run

namespace Spiderworks

-- A run that cannot be recorded as started is not registered any more when its caller learns of it.
inductive StartStage where
  | asking
  | reading
  | registering (d : Definition)
  | marking (d : Definition) (execution : String) (number : Nat)
  | withdrawing (execution : String) (e : EngineError)
  | done (result : Except EngineError String)

structure StartCall where
  spider : Int
  stage : StartStage

namespace StartCall

def readSpider (spider : Int) : Work Definition := do
  match ← Work.session (Session.spider? spider) with
  | some s => return s.definition
  | none => throw (.notFound spider)

def result? (c : StartCall) : Option (Except EngineError String) :=
  match c.stage with
  | .done r => some r
  | _ => none

-- ### Steps

def stepAsking (c : StartCall) (h : Hub) : StartStage × Hub :=
  if h.registry.contains c.spider then (.done (.error (.alreadyRunning c.spider)), h)
  else (.reading, h)

def stepReading (c : StartCall) (h : Hub) : StartStage × Hub :=
  match h.work (readSpider c.spider) with
  | (.ok d, h) => (.registering d, h)
  | (.error e, h) => (.done (.error e), h)

def stepRegistering (s : Setup) (c : StartCall) (d : Definition) (h : Hub) : StartStage × Hub :=
  let (execution, h) := h.newName s
  match h.registry.register c.spider execution with
  | some (number, registry) => (.marking d execution number, h.setRegistry registry)
  | none => (.done (.error (.alreadyRunning c.spider)), h)

def newRun (d : Definition) (execution : String) (number : Nat) (now : Time.Instant) : Run :=
  ⟨d, execution, number, now, .preparing⟩

-- A run that is marked as started has its task from then on.
def stepMarking (s : Setup) (d : Definition) (execution : String) (number : Nat) (h : Hub) :
    StartStage × Option Run × Hub :=
  let (now, h) := h.readClock s
  match h.work (Work.session (Bookkeeping.markStarted now ⟨d.id, d.name, execution⟩)) with
  | (.ok _, h) => (.done (.ok execution), some (newRun d execution number now), h)
  | (.error e, h) => (.withdrawing execution e, none, h)

def nextStage (s : Setup) (c : StartCall) (h : Hub) : StartStage × Option Run × Hub :=
  let alone (p : StartStage × Hub) := (p.1, none, p.2)
  match c.stage with
  | .asking => alone (c.stepAsking h)
  | .reading => alone (c.stepReading h)
  | .registering d => alone (c.stepRegistering s d h)
  | .marking d execution number => stepMarking s d execution number h
  | .withdrawing execution e => (.done (.error e), none, h.unregister c.spider execution)
  | .done r => (.done r, none, h)

-- Answers also the run that has come into being.
def step (s : Setup) (c : StartCall) (h : Hub) : StartCall × Option Run × Hub :=
  let (stage, run, h) := c.nextStage s h
  ({ c with stage := stage }, run, h)

end StartCall

end Spiderworks
