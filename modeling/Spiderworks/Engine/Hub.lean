import Spiderworks.Engine.Bookkeeping
import Spiderworks.Engine.Layout
import Spiderworks.Engine.Registry
import Spiderworks.Engine.Site
import Spiderworks.Process.Child

namespace Spiderworks

open Time (Clock Instant)

-- What does not change while the engine is at work. `timeout` is the time of a direct call in
-- seconds, `minutes` the usual distance between two of them. `names` gives every execution its name
-- and `clock` every reading of the time, both by the number of those before it. `removal` is the
-- reason why a file stays on a disk from which it is to be removed, if there is one.
structure Setup where
  layout : Layout
  launchers : Launchers
  timeout : Nat
  minutes : Nat
  platform : Platform
  removal : String → Disk → Option IoError
  names : Nat → String
  clock : Clock

-- A process that was launched, with the program it was given.
structure Launched where
  spider : Int
  launch : Launch
  source : String
  deriving DecidableEq, Repr

def Setup.removeFile (s : Setup) (d : Disk) (path : String) : Except IoError Disk :=
  match s.removal path d with
  | some e => .error e
  | none => d.removeFile path

-- What all runs and calls share. They take turns with it; one turn is one step of one of them.
structure Hub where
  site : Site
  registry : Registry
  named : Nat
  readings : Nat
  launches : List Launched

namespace Hub

def ofSite (site : Site) : Hub := ⟨site, .empty, 0, 0, []⟩

def work {α : Type} (h : Hub) (w : Work α) : Except EngineError α × Hub :=
  let (result, site) := h.site.run w
  (result, { h with site := site })

def readClock (s : Setup) (h : Hub) : Instant × Hub :=
  (s.clock h.readings, { h with readings := h.readings + 1 })

-- The next readings, `n` of which are made.
def readTimes (s : Setup) (n : Nat) (h : Hub) : Clock × Hub :=
  (s.clock.after h.readings, { h with readings := h.readings + n })

def newName (s : Setup) (h : Hub) : String × Hub :=
  (s.names h.named, { h with named := h.named + 1 })

def setRegistry (h : Hub) (r : Registry) : Hub := { h with registry := r }

def setDisk (h : Hub) (d : Disk) : Hub := { h with site := { h.site with disk := d } }

-- A file that cannot be removed is left.
def removeFile (s : Setup) (path : String) (h : Hub) : Hub :=
  match s.removeFile h.site.disk path with
  | .ok d => h.setDisk d
  | .error _ => h

-- Takes the registration of an execution out, if it is still there.
def unregister (h : Hub) (spider : Int) (execution : String) : Hub :=
  match h.registry.remove spider execution with
  | some r => h.setRegistry r
  | none => h

end Hub

-- ### Programs of an execution

-- A program and the path it is stored at.
structure Stored where
  program : Program
  path : String
  deriving DecidableEq, Repr

-- An interpreter is told not to hold its output back.
def Stored.environment (p : Stored) (spider : Int) (execution : String) : List (String × String) :=
  [("SPIDER_ID", String.ofList (Text.ofInt spider)), ("EXECUTION_ID", execution)] ++
    match p.program.launcher with
    | .interpreter _ => [("PYTHONUNBUFFERED", "1"), ("PYTHONIOENCODING", "utf-8")]
    | .worker _ => []

-- The launch of a program with two more things: variables, and a directory to run in.
def Stored.launch (p : Stored) (spider : Int) (execution : String)
    (more : List (String × String)) (directory : Option String) : Launch :=
  let (command, args) := p.program.command p.path
  ⟨command, args, p.environment spider execution ++ more, directory⟩

def Setup.place (s : Setup) (d : Definition) (execution : String) (p : Program) : Stored :=
  ⟨p, s.layout.script d.id execution p.extension⟩

def Hub.launch (s : Setup) (spider : Int) (p : Stored) (l : Launch) (h : Hub) :
    Except IoError Child × Hub :=
  match s.platform.launch l h.site.disk with
  | .error e => (.error e, h)
  | .ok c => (.ok c, { h with launches := h.launches ++ [⟨spider, l, p.program.source⟩] })

end Spiderworks
