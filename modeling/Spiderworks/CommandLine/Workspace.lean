import Spiderworks.Config.File
import Spiderworks.Engine.Machine
import Spiderworks.Process.Commands
import Spiderworks.Worker.Run

namespace Spiderworks

-- A database is made when it is first opened; a file that is something else cannot be opened.
-- `named` and `readings` count the execution names and the readings of the clock so far.
structure Workspace where
  disk : Disk
  directory : String
  databases : List (List String × Store)
  named : Nat
  readings : Nat

-- What commands meet from outside. `self` is the command of this very program.
structure Surroundings where
  self : String
  network : Worker.Network
  platform : String → Platform
  removal : String → Disk → Option IoError
  names : Nat → String
  clock : Time.Clock

inductive DatabaseError where
  | cannotOpen (path : String)
  | noDatabase
  deriving DecidableEq, Repr

def DatabaseError.message : DatabaseError → String
  | .cannotOpen path => "Database error: unable to open database file: " ++ path
  | .noDatabase => "Database error: file is not a database"

namespace Workspace

def path (w : Workspace) (p : String) : String := Path.join w.directory p

-- ### Databases

def databaseMark : List UInt8 := Utf8.encode "SQLite format 3\x00"

def database? (w : Workspace) (place : List String) : Option Store :=
  (w.databases.find? (·.1 == place)).map (·.2)

def keep (w : Workspace) (place : List String) (s : Store) : Workspace :=
  { w with databases := w.databases.filter (·.1 != place) ++ [(place, s)] }

-- The place of the database, its contents, and the workspace in which it stands.
def openDatabase (w : Workspace) (path : String) :
    Except DatabaseError (List String × Store × Workspace) :=
  match w.disk.place (w.path path) with
  | .error _ => .error (.cannotOpen path)
  | .ok place =>
    match w.disk.node? place, w.database? place with
    | some (.file _), some s => .ok (place, s, w)
    | some (.file []), none | none, _ =>
      let disk := w.disk.set place (.file databaseMark)
      .ok (place, .empty, { w with disk := disk }.keep place .empty)
    | some (.file _), none => .error .noDatabase
    | _, _ => .error (.cannotOpen path)

end Workspace

-- ### Processes

def unixSeconds (t : Time.Instant) : Float :=
  let ms := t.seconds * 1000 + (t.nanos / 1000000 : Nat)
  Decimal.ofWhole (ms < 0) ms.natAbs / 1000.0

-- A worker that breaks off does so with this code.
def brokenOffCode : Nat := 101

structure WorkerTrace where
  code : Nat
  output : String
  errors : String
  disk : Disk

-- Running a worker program from a file.
def workAt (s : Surroundings) (now : Time.Instant) (d : Disk) (file shown outputDir : String) :
    WorkerTrace :=
  match Worker.load d file with
  | .error e =>
    ⟨1, "", "ERROR: Failed to load rule program " ++ shown ++ ": " ++ e.message ++ "\n", d⟩
  | .ok p =>
    match Worker.execute s.network p (unixSeconds now) outputDir d with
    | .brokenOff => ⟨brokenOffCode, "", "", d⟩
    | .report r => ⟨r.code, r.output, r.errors, r.disk⟩

-- This program as the worker of a run; the file that it writes is one that the process leaves.
def workerChild (s : Surroundings) (now : Time.Instant) (l : Launch) (d : Disk) : Child :=
  let file := l.args.getLastD ""
  let dir := (l.valueOf? "OUTPUT_DIR").getD "/"
  let t := workAt s now d file file dir
  let files := match t.disk.read (Path.join dir Worker.resultsFile) with
    | .ok bytes => if t.code = 0 then [(Worker.resultsFile, bytes)] else []
    | .error _ => []
  ⟨Utf8.encode t.output, Utf8.encode t.errors, files, .ends (.exited t.code)⟩

def Surroundings.launch (s : Surroundings) (w : Workspace) : Platform := fun l d =>
  if l.command = s.self then .ok (workerChild s (s.clock w.readings) l d)
  else s.platform w.directory l d

end Spiderworks
