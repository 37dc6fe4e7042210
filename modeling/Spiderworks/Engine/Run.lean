import Spiderworks.Engine.Hub
import Spiderworks.Output.Ingest

namespace Spiderworks

open Time (Clock Instant)

inductive RunEnd where
  | exited (o : ProcessOutput)
  | stopped
  | failed (e : EngineError)

-- What is left to store of the output of a process.
inductive Chore where
  | stream (s : Stream) (text : String)
  | lines (o : ProcessOutput)
  deriving DecidableEq, Repr

def Chore.ofOutput (o : ProcessOutput) : List Chore :=
  [.stream .output o.output, .stream .errors o.errors, .lines o]

-- The stages of a run. Its program is written and launched, its process watched until it ends or a
-- request to stop comes in, its output stored, and its program taken away. Then the run claims its
-- own end: only if no request to stop has claimed it before does it write the final status.
inductive RunStage where
  | preparing
  | prepared (p : Stored)
  | launched (p : Stored) (c : Child)
  | watching (p : Stored) (c : Child)
  | saving (p : Stored) (chores : List Chore) (e : RunEnd)
  | scanning (p : Stored) (e : RunEnd)
  | registering (p : Stored) (files : List (String × Nat)) (e : RunEnd)
  | ended (e : RunEnd)
  | claimed (e : RunEnd)
  | leaving
  | signing
  | done

-- `number` is that of the registration, and so of the signals.
structure Run where
  spider : Definition
  execution : String
  number : Nat
  began : Instant
  stage : RunStage

-- A run goes onward as far as it can by itself. While it watches its process it may also heed a
-- request to stop, and it may lose its process.
inductive RunMove where
  | onward
  | heed
  | lose (e : IoError)
  deriving DecidableEq, Repr

namespace Run

def subject (r : Run) : Bookkeeping.Subject := ⟨r.spider.id, r.spider.name, r.execution⟩

def files (r : Run) : Ingest.Run := ⟨r.spider.id, r.execution⟩

def outputDir (s : Setup) (r : Run) : String := s.layout.outputDir r.spider.id r.execution

def signals (r : Run) (h : Hub) : Signals := h.registry.signalsOf r.number

def prepare (s : Setup) (r : Run) : Work Stored := do
  match r.spider.synthesize s.launchers r.execution .files none with
  | .error e => throw (.synthesis e)
  | .ok program =>
    Work.changeDisk fun d => d.makeDirectories (r.outputDir s)
    let p := s.place r.spider r.execution program
    Work.changeDisk fun d => d.write p.path (Utf8.encode program.source)
    return p

def launchOf (s : Setup) (r : Run) (p : Stored) : Launch :=
  let dir := r.outputDir s
  p.launch r.spider.id r.execution [("OUTPUT_DIR", dir)] (some dir)

def doChore (s : Setup) (r : Run) (clock : Clock) : Chore → Work Unit
  | .stream stream text => do
    let _ ← Ingest.saveStream s.layout (clock 0) r.files stream text
  | .lines o => Ingest.saveLines clock r.files o

-- How many readings of the time a chore takes.
def readings (r : Run) : Chore → Nat
  | .stream _ _ => 1
  | .lines o => (lineEntries r.spider.id r.execution o.output o.errors).length

-- The final entry of a run that has claimed its own end.
def finalEntry (r : Run) (now : Instant) : RunEnd → Session Unit
  | .exited o => Bookkeeping.reconcile now r.subject o.code (now.since r.began).toNat
  | .failed e => Bookkeeping.recordFailure now r.subject e
  | .stopped => return ()

-- ### Steps

def stepPreparing (s : Setup) (r : Run) (h : Hub) : RunStage × Hub :=
  match h.work (r.prepare s) with
  | (.ok p, h) => (.prepared p, h)
  | (.error e, h) => (.ended (.failed e), h)

-- A run that is asked to stop before its launch is never launched.
def stepPrepared (s : Setup) (r : Run) (p : Stored) (h : Hub) : RunStage × Hub :=
  if (r.signals h).cancel then (.ended .stopped, h.removeFile s p.path)
  else
    let l := r.launchOf s p
    match h.launch s r.spider.id p l with
    | (.ok c, h) => (.launched p c, h.setDisk (c.leaveFiles (r.outputDir s) h.site.disk))
    | (.error e, h) => (.ended (.failed (.spawn l.command e)), h.removeFile s p.path)

def stepLaunched (r : Run) (p : Stored) (c : Child) (h : Hub) : RunStage × Hub :=
  (.watching p c,
    h.setRegistry (h.registry.attach r.spider.id r.execution (some h.launches.length)))

def stepWatching (s : Setup) (r : Run) (p : Stored) (c : Child) (h : Hub) : RunMove → RunStage × Hub
  | .onward =>
    match c.course.byItself with
    | some e => let o := c.outputAt e; (.saving p (Chore.ofOutput o) (.exited o), h)
    | none => (.watching p c, h)
  | .heed =>
    if (r.signals h).cancel then
      (.saving p (Chore.ofOutput (c.outputAt c.course.shutDown)) .stopped, h)
    else (.watching p c, h)
  | .lose e => (.ended (.failed (.io e)), h.removeFile s p.path)

-- A chore that fails takes those after it along, but not the scan.
def stepSaving (s : Setup) (r : Run) (p : Stored) (c : Chore) (rest : List Chore) (e : RunEnd)
    (h : Hub) : RunStage × Hub :=
  let (clock, h) := h.readTimes s (r.readings c)
  match h.work (r.doChore s clock c) with
  | (.ok _, h) => (.saving p rest e, h)
  | (.error _, h) => (.scanning p e, h)

def stepRegistering (s : Setup) (r : Run) (p : Stored) (f : String × Nat)
    (rest : List (String × Nat)) (e : RunEnd) (h : Hub) : RunStage × Hub :=
  let (now, h) := h.readClock s
  match h.work (Ingest.registerFound s.layout now r.files f) with
  | (.ok _, h) => (.registering p rest e, h)
  | (.error _, h) => (.registering p [] e, h)

def stepEnded (r : Run) (e : RunEnd) (h : Hub) : RunStage × Hub :=
  match e with
  | .stopped => (.signing, h)
  | e =>
    match h.registry.beginFinish r.spider.id r.execution with
    | some registry => (.claimed e, h.setRegistry registry)
    | none => (.signing, h)

-- An entry that cannot be made is left out; the run ends all the same.
def stepClaimed (s : Setup) (r : Run) (e : RunEnd) (h : Hub) : RunStage × Hub :=
  let (now, h) := h.readClock s
  (.leaving, (h.work (Work.session (r.finalEntry now e))).2)

def nextStage (s : Setup) (move : RunMove) (r : Run) (h : Hub) : RunStage × Hub :=
  match r.stage with
  | .preparing => r.stepPreparing s h
  | .prepared p => r.stepPrepared s p h
  | .launched p c => r.stepLaunched p c h
  | .watching p c => r.stepWatching s p c h move
  | .saving p [] e => (.scanning p e, h)
  | .saving p (c :: rest) e => r.stepSaving s p c rest e h
  | .scanning p e => (.registering p (Ingest.found s.layout r.files h.site.disk) e, h)
  | .registering p [] e => (.ended e, h.removeFile s p.path)
  | .registering p (f :: rest) e => r.stepRegistering s p f rest e h
  | .ended e => r.stepEnded e h
  | .claimed e => r.stepClaimed s e h
  | .leaving => (.signing, h.unregister r.spider.id r.execution)
  | .signing => (.done, h.setRegistry (h.registry.finish r.number))
  | .done => (.done, h)

def step (s : Setup) (move : RunMove) (r : Run) (h : Hub) : Run × Hub :=
  let (stage, h) := r.nextStage s move h
  ({ r with stage := stage }, h)

end Run

end Spiderworks
