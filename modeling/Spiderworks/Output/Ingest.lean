import Spiderworks.Disk.Walk
import Spiderworks.Engine.Layout
import Spiderworks.Engine.Site
import Spiderworks.Output.FileKind
import Spiderworks.Output.Lines
import Spiderworks.Process.Child

namespace Spiderworks

open Time (Clock Instant)

structure IngestReport where
  outputLines : Nat
  errorLines : Nat
  streamFiles : Nat
  deriving DecidableEq, Repr

namespace Ingest

-- The run whose output this is.
structure Run where
  spider : Int
  execution : String
  deriving DecidableEq, Repr

def registerNew (now : Instant) (n : NewFile) : Session Bool := do
  if (← Session.file? n.spider n.path).isSome then return false
  let _ ← Session.registerFile now n
  return true

def streamFile (l : Layout) (r : Run) (stream : Stream) (text : String) : NewFile :=
  let path := l.streamLog r.spider r.execution stream
  { spider := r.spider
    filename := (Path.fileName? path).getD (r.execution ++ "_" ++ stream.name ++ ".log")
    path := path
    kind := FileKind.log.name
    size := text.utf8ByteSize
    execution := some r.execution
    description := some ("Spider " ++ stream.name ++ " output")
    tags := none }

-- Whether a stream has become a new file. An empty one becomes none, and one that cannot be written
-- is passed over.
def saveStream (l : Layout) (now : Instant) (r : Run) (stream : Stream) (text : String) :
    Work Bool := do
  if text.isEmpty then return false
  let file := streamFile l r stream text
  match (← Work.disk).writeWithParents file.path (Utf8.encode text) with
  | .error _ => return false
  | .ok d =>
    Work.setDisk d
    Work.session (registerNew now file)

-- Every entry has a reading of the time to itself.
def stamped (clock : Clock) (entries : List NewLog) : List (NewLog × Instant) :=
  entries.mapIdx fun i n => (n, clock i)

def saveLines (clock : Clock) (r : Run) (o : ProcessOutput) : Work Unit := do
  match lineEntries r.spider r.execution o.output o.errors with
  | [] => return ()
  | entries => Work.session (Session.appendLogs (stamped clock entries))

def save (l : Layout) (clock : Clock) (r : Run) (o : ProcessOutput) : Work IngestReport := do
  let a ← saveStream l (clock 0) r .output o.output
  let b ← saveStream l (clock 1) r .errors o.errors
  saveLines (clock.after 2) r o
  return ⟨(logLines o.output).length, (logLines o.errors).length, a.toNat + b.toNat⟩

-- ### Files of the output directory

def fileSize (d : Disk) (place : List String) : Nat :=
  match d.node? place with
  | some (.file bytes) => bytes.length
  | _ => 0

-- Names relative to the output directory, with the sizes.
def found (l : Layout) (r : Run) (d : Disk) : List (String × Nat) :=
  let dir := l.outputDir r.spider r.execution
  if d.isDirectory dir then
    match d.place dir with
    | .error _ => []
    | .ok place =>
      (d.filesBelow place).map fun p => (String.intercalate "/" p, fileSize d (place ++ p))
  else []

def foundFile (l : Layout) (r : Run) (name : String) (size : Nat) : NewFile where
  spider := r.spider
  filename := name
  path := Path.join (l.outputDir r.spider r.execution) name
  kind := (FileKind.ofFilename name).name
  size := size
  execution := some r.execution
  description := some ("Generated by spider execution " ++ r.execution)
  tags := none

def registerFound (l : Layout) (now : Instant) (r : Run) (f : String × Nat) : Work Bool :=
  Work.session (registerNew now (foundFile l r f.1 f.2))

-- How many files are new.
def registerAll (l : Layout) (clock : Clock) (r : Run) : List (String × Nat) → Work Nat
  | [] => return 0
  | f :: rest => do
    let new ← registerFound l (clock 0) r f
    return new.toNat + (← registerAll l (clock.after 1) r rest)

def scan (l : Layout) (clock : Clock) (r : Run) : Work Nat := do
  registerAll l clock r (found l r (← Work.disk))

end Ingest

end Spiderworks
