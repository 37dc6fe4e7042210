import Spiderworks.Engine.Hub

namespace Spiderworks

open Time (Instant)

inductive DirectOutcome where
  | completed (o : ProcessOutput)
  | timedOut (o : ProcessOutput)
  | internal (message : String)

-- A call that was let in always has a result.
inductive DirectStage where
  | admitting
  | preparing (d : Definition)
  | prepared (d : Definition) (p : Stored)
  | watching (d : Definition) (p : Stored) (c : Child)
  | recording (d : Definition) (o : DirectOutcome)
  | done (result : Except EngineError DirectResult)

-- `code` stands in for the stored code of the spider.
structure DirectCall where
  spider : Int
  code : Option String
  execution : String
  began : Instant
  stage : DirectStage

-- A call that watches its process may lose it.
inductive DirectMove where
  | onward
  | lose (e : IoError)
  deriving DecidableEq, Repr

namespace DirectCall

def result? (c : DirectCall) : Option (Except EngineError DirectResult) :=
  match c.stage with
  | .done r => some r
  | _ => none

def prepare (s : Setup) (c : DirectCall) (d : Definition) (disk : Disk) :
    Except String (Stored × Disk) :=
  match d.synthesize s.launchers c.execution .direct c.code with
  | .error e => .error e.synthesisMessage
  | .ok program =>
    let p := s.place d c.execution program
    match disk.write p.path (Utf8.encode program.source) with
    | .error e => .error ("failed to write program: " ++ e.message)
    | .ok disk => .ok (p, disk)

def launchOf (c : DirectCall) (p : Stored) : Launch :=
  p.launch c.spider c.execution [("API_CALL_MODE", "true")] none

def exitText (o : ProcessOutput) : String :=
  let errors := Text.trim o.errors.toList
  if errors.isEmpty then "Spider exited with code " ++ String.ofList (Text.ofInt o.code)
  else String.ofList errors

-- The result of an outcome, before its time is known.
def resultOf (s : Setup) (d : Definition) (execution : String) : DirectOutcome → DirectResult
  | .completed o =>
    if o.isSuccess then
      match reportedObject? o.output with
      | some object => .ofObject d.id d.name execution object
      | none =>
        .failed d.id d.name execution .noResult "No JSON result found in spider output" (some o)
    else .failed d.id d.name execution (.nonZeroExit o.code) (exitText o) (some o)
  | .timedOut o =>
    .failed d.id d.name execution .timeout
      ("Spider execution timed out after " ++ String.ofList (Text.ofNat s.timeout) ++ " seconds")
      (some o)
  | .internal message => .failed d.id d.name execution .internal message none

-- Seconds with a fraction.
def seconds (nanos : Nat) : Float := Decimal.ofWhole false nanos / 1000000000.0

-- ### Steps

def stepAdmitting (s : Setup) (c : DirectCall) (h : Hub) : DirectStage × Hub :=
  let (now, h) := h.readClock s
  let (later, h) := h.readClock s
  match h.work (Work.session (Bookkeeping.letIn now later s.minutes c.spider c.execution)) with
  | (.ok (.ok d), h) => (.preparing d, h)
  | (.ok (.error e), h) => (.done (.error e), h)
  | (.error e, h) => (.done (.error e), h)

def stepPreparing (s : Setup) (c : DirectCall) (d : Definition) (h : Hub) : DirectStage × Hub :=
  match c.prepare s d h.site.disk with
  | .ok (p, disk) => (.prepared d p, h.setDisk disk)
  | .error message => (.recording d (.internal message), h)

def stepPrepared (s : Setup) (c : DirectCall) (d : Definition) (p : Stored) (h : Hub) :
    DirectStage × Hub :=
  let l := c.launchOf p
  match h.launch s c.spider p l with
  | (.ok child, h) => (.watching d p child, h)
  | (.error e, h) =>
    (.recording d (.internal (EngineError.spawn l.command e).message), h.removeFile s p.path)

def outcomeOf (s : Setup) (child : Child) : DirectMove → DirectOutcome
  | .onward =>
    match child.waitAtMost s.timeout with
    | .exited o => .completed o
    | .timedOut o => .timedOut o
  | .lose e => .internal ("failed to wait for process: " ++ e.message)

-- An outcome that cannot be recorded is still the result.
def stepRecording (s : Setup) (c : DirectCall) (d : Definition) (o : DirectOutcome) (h : Hub) :
    DirectStage × Hub :=
  let (now, h) := h.readClock s
  let nanos := (now.since c.began).toNat
  let result := { resultOf s d c.execution o with seconds := seconds nanos }
  let entry := Bookkeeping.recordOutcome now ⟨d.id, d.name, c.execution⟩ result nanos
  (.done (.ok result), (h.work (Work.session entry)).2)

def nextStage (s : Setup) (move : DirectMove) (c : DirectCall) (h : Hub) : DirectStage × Hub :=
  match c.stage with
  | .admitting => c.stepAdmitting s h
  | .preparing d => c.stepPreparing s d h
  | .prepared d p => c.stepPrepared s d p h
  | .watching d p child => (.recording d (outcomeOf s child move), h.removeFile s p.path)
  | .recording d o => c.stepRecording s d o h
  | .done r => (.done r, h)

def step (s : Setup) (move : DirectMove) (c : DirectCall) (h : Hub) : DirectCall × Hub :=
  let (stage, h) := c.nextStage s move h
  ({ c with stage := stage }, h)

end DirectCall

end Spiderworks
