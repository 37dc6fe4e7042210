import Spiderworks.Disk.Basic
import Spiderworks.Engine.Error
import Spiderworks.Store.Shared

namespace Spiderworks

structure Site where
  disk : Disk
  shared : SharedStore

-- Work that fails keeps what it has done so far.
abbrev Work := ExceptT EngineError (StateM Site)

namespace Work

-- A session holds the store from its first request to its last.
def session {α : Type} (p : Session α) : Work α := do
  let s ← get
  let (result, shared) := s.shared.run (do Session.hold; p)
  set { s with shared := shared }
  match result with
  | .ok a => return a
  | .error e => throw (.storage e)

def disk : Work Disk := return (← get).disk

def setDisk (d : Disk) : Work Unit := modify fun s => { s with disk := d }

def changeDisk (f : Disk → Except IoError Disk) : Work Unit := do
  match f (← disk) with
  | .ok d => setDisk d
  | .error e => throw (.io e)

end Work

def Site.run {α : Type} (s : Site) (w : Work α) : Except EngineError α × Site :=
  (ExceptT.run w).run s

end Spiderworks
