import Spiderworks.CommandLine.Command
import Spiderworks.CommandLine.Workspace
import Spiderworks.Engine.Schedule

namespace Spiderworks.Text

-- Columns of a table: a text that is longer than its column keeps all it has.
def leftAligned (width : Nat) (s : String) : String :=
  s ++ String.ofList (List.replicate (width - s.length) ' ')

def rightAligned (width : Nat) (s : String) : String :=
  String.ofList (List.replicate (width - s.length) ' ') ++ s

end Spiderworks.Text

namespace Spiderworks

inductive CommandError where
  | config (path : String)
  | unreadable (path : String)
  | noJson (path : String)
  | database (e : DatabaseError)
  | store (e : StoreError)
  | engine (e : EngineError)
  | noSpider (spider : Int)
  | spiderGone

def CommandError.message : CommandError → String
  | .config path => "Failed to load configuration from " ++ path
  | .unreadable path => "Failed to read " ++ path
  | .noJson path => path ++ " is not valid JSON"
  | .database e => e.message
  | .store e => e.message
  | .engine e => e.message
  | .noSpider spider => (EngineError.notFound spider).message
  | .spiderGone => "Spider disappeared during the run"

-- How a command ends, and what it prints on its two streams.
structure Outcome where
  code : Nat
  output : String
  errors : String
  deriving DecidableEq, Repr

-- What is printed stays printed when a command fails later on.
structure Desk where
  workspace : Workspace
  printed : String

abbrev Job := ExceptT CommandError (StateM Desk)

namespace Job

def workspace : Job Workspace := return (← get).workspace

def setWorkspace (w : Workspace) : Job Unit := modify fun d => { d with workspace := w }

def printLine (line : String) : Job Unit :=
  modify fun d => { d with printed := d.printed ++ line ++ "\n" }

def ofExcept {ε α : Type} (wrap : ε → CommandError) : Except ε α → Job α
  | .ok a => return a
  | .error e => throw (wrap e)

-- ### Files and databases

def readFile (path : String) : Job String := do
  let w ← workspace
  ofExcept (fun _ => .unreadable path) (w.disk.readText (w.path path))

def readJson (path : String) : Job Json := do
  match Json.read? (← readFile path) with
  | some v => return v
  | none => throw (.noJson path)

def readConfig : Option String → Job Config
  | none => return {}
  | some path => do
    let w ← workspace
    let (c, _) ← ofExcept (fun _ => .config path) (Config.load w.disk (w.path path))
    return c

def openDatabase (path : String) : Job (List String × Store) := do
  let (place, store, w) ← ofExcept .database ((← workspace).openDatabase path)
  setWorkspace w
  return (place, store)

def keep (place : List String) (s : Store) : Job Unit := do
  setWorkspace ((← workspace).keep place s)

-- ### Spiders

def add (c : Config) (name : String) (code config description : Option String) : Job Nat := do
  let code ← match code with
    | some path => readFile path
    | none => pure ""
  let config ← match config with
    | some path => readJson path
    | none => pure (.obj [])
  let (place, store) ← openDatabase c.database
  let (result, store) := (Query.create (.ofConfig name description code config)).on store
  let id ← ofExcept .store result
  keep place store
  printLine (String.ofList (Text.ofInt id))
  return 0

def spiderLine (id name status runs successes errors lastRun : String) : String :=
  Text.rightAligned 5 id ++ "  " ++ Text.leftAligned 24 name ++ " " ++ status ++ " " ++
    Text.rightAligned 5 runs ++ " " ++ Text.rightAligned 5 successes ++ " " ++
    Text.rightAligned 5 errors ++ "  " ++ lastRun

def number (n : Int) : String := String.ofList (Text.ofInt n)

def lineOfSpider (s : Spider) : String :=
  spiderLine (number s.id) s.name s.status.name (number s.runs) (number s.successes)
    (number s.errors) (s.lastRun.getD "-")

-- Only the heading of the status is filled up.
def list (c : Config) : Job Nat := do
  let (_, store) ← openDatabase c.database
  let spiders ← ofExcept .store store.list
  printLine (spiderLine "ID" "NAME" (Text.leftAligned 9 "STATUS") "RUNS" "OK" "ERR" "LAST RUN")
  spiders.forM fun s => printLine (lineOfSpider s)
  return 0

-- ### Logs and files

def lineOfLog (e : LogEntry) : String :=
  String.ofList e.time.rfc3339 ++ " [" ++ e.level.name ++ "] " ++
    ((e.source.map (·.name)).getD "-") ++ ": " ++ e.message

-- The newest entries of a spider or all entries of one execution, oldest first.
def logs (c : Config) (spider : Int) (limit : Nat) (execution : Option String) : Job Nat := do
  let (_, store) ← openDatabase c.database
  if (← ofExcept .store (store.spider? spider)).isNone then throw (.noSpider spider)
  let entries := match execution with
    | some execution => store.executionLogs execution
    | none => (store.spiderLogs spider limit).reverse
  entries.forM fun e => printLine (lineOfLog e)
  return 0

def lineOfFile (f : FileEntry) : String :=
  Text.rightAligned 5 (number f.id) ++ "  " ++ Text.leftAligned 6 f.kind ++ " " ++
    Text.rightAligned 9 (number f.size) ++ "  " ++ String.ofList f.time.rfc3339 ++ "  " ++ f.path

def files (c : Config) (spider : Int) : Job Nat := do
  let (_, store) ← openDatabase c.database
  (store.spiderFiles spider).forM fun f => printLine (lineOfFile f)
  return 0

-- ### Runs and direct calls

structure Session where
  place : List String
  setup : Setup
  engine : Engine

def openEngine (s : Surroundings) (c : Config) : Job Session := do
  let (place, store) ← openDatabase c.database
  let w ← workspace
  let (layout, disk) ← ofExcept (fun e => .engine (.io e))
    (Layout.prepare w.disk (w.path c.files) (w.path c.logs) (w.path c.scripts))
  setWorkspace { w with disk := disk }
  let setup : Setup := {
    layout := layout
    launchers := ⟨c.interpreter, c.worker.getD s.self⟩
    timeout := c.timeout
    minutes := c.interval
    platform := s.launch w
    removal := s.removal
    names := s.names
    clock := s.clock }
  let hub : Hub := ⟨⟨disk, .ofStore store⟩, .empty, w.named, w.readings, []⟩
  return ⟨place, setup, ⟨hub, [], [], [], [], []⟩⟩

def closeEngine (e : Session) (engine : Engine) : Job Unit := do
  let hub := engine.hub
  setWorkspace { (← workspace) with
    disk := hub.site.disk, named := hub.named, readings := hub.readings }
  keep e.place hub.site.shared.store

-- An interruption comes when the process is under way and has left the file that is waited for. It
-- stops the run.
def finish (s : Session) (engine : Engine) (spider : Int) (sign : Option String) : Engine :=
  match sign with
  | none => engine.wait s.setup spider
  | some path =>
    let running := engine.ready s.setup spider
    match running.hub.site.disk.stat path with
    | .ok _ => (running.stop s.setup spider 1).2.wait s.setup spider
    | .error _ => running.wait s.setup spider

def run (s : Surroundings) (c : Config) (spider : Int) (sign : Option String) : Job Nat := do
  let session ← openEngine s c
  let (started, engine) := session.engine.start session.setup spider
  closeEngine session engine
  let execution ← ofExcept .engine (started.getD (.error (.notRunning spider)))
  printLine ("Execution " ++ execution)
  let w ← workspace
  let engine := finish session engine spider (sign.map w.path)
  closeEngine session engine
  match ← ofExcept .store (engine.hub.site.shared.store.spider? spider) with
  | none => throw .spiderGone
  | some record =>
    printLine ("Spider " ++ record.name ++ " finished with status " ++ record.status.name)
    return if record.status.isError then 1 else 0

def call (s : Surroundings) (c : Config) (spider : Int) (code : Option String) : Job Nat := do
  let code ← match code with
    | some path => some <$> readFile path
    | none => pure none
  let session ← openEngine s c
  let (answer, engine) := session.engine.call session.setup spider code
  closeEngine session engine
  let result ← ofExcept .engine (answer.getD (.error (.notRunning spider)))
  printLine (Json.pretty result.json)
  return if result.success then 0 else 1

-- ### Orders

def ofCommand (s : Surroundings) (sign : Option String) (c : Config) : Command → Job Nat
  | .add name code config description => add c name code config description
  | .list => list c
  | .run spider => run s c spider sign
  | .call spider code => call s c spider code
  | .logs spider limit execution => logs c spider limit execution
  | .files spider => files c spider
  | .worker _ => return 0

end Job

namespace CommandLine

def programName : String := "spider-engine"

def versionText : String := programName ++ " 1.0.0\n"

def usageText : String :=
  "Usage: " ++ programName ++
    " [-c CONFIG] [-v | -q] add | list | run | call | logs | files ...\n"

-- A worker has no use for the configuration, nor for a database.
def runWorker (s : Surroundings) (w : Workspace) (program : String) : Outcome × Workspace :=
  let now := s.clock w.readings
  let t := workAt s now w.disk (w.path program) program w.directory
  (⟨t.code, t.output, t.errors⟩, { w with disk := t.disk, readings := w.readings + 1 })

def carryOut (s : Surroundings) (sign : Option String) (w : Workspace) (o : Order) :
    Outcome × Workspace :=
  match o.command with
  | .worker program => runWorker s w program
  | command =>
    let job : Job Nat := do Job.ofCommand s sign (← Job.readConfig o.config) command
    let (result, desk) := (ExceptT.run job).run ⟨w, ""⟩
    (match result with
      | .ok code => ⟨code, desk.printed, ""⟩
      | .error e => ⟨1, desk.printed, "Error: " ++ e.message ++ "\n"⟩, desk.workspace)

-- One command line, from its arguments to its outcome. A run is interrupted when the file that is
-- its sign has come into being.
def perform (s : Surroundings) (sign : Option String) (w : Workspace) (args : List String) :
    Outcome × Workspace :=
  match readOrder args with
  | .ok o => carryOut s sign w o
  | .error .version => (⟨0, versionText, ""⟩, w)
  | .error .help => (⟨0, usageText, ""⟩, w)
  | .error .misuse => (⟨2, "", usageText⟩, w)

end CommandLine

end Spiderworks
