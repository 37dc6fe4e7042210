import Spiderworks.Store.Record

namespace Spiderworks

open Time (Instant)

-- Tables whose rows are in the order of their ids. Every table counts its ids up from 1 and never
-- gives one twice.
structure Store where
  spiders : List SpiderRow
  logs : List LogRow
  files : List FileRow
  settings : List (String × String)
  lastSpider : Int
  lastLog : Int
  lastFile : Int
  deriving DecidableEq, Repr

namespace Store

def empty : Store := ⟨[], [], [], [], 0, 0, 0⟩

instance : Inhabited Store := ⟨empty⟩

def has (s : Store) (spider : Int) : Bool := s.spiders.any (·.id == spider)

-- ### Spiders

def spider? (s : Store) (id : Int) : Except StoreError (Option Spider) :=
  match s.spiders.find? (·.id == id) with
  | none => .ok none
  | some row => row.read.map some

-- Newest first.
def list (s : Store) : Except StoreError (List Spider) := s.spiders.reverse.mapM SpiderRow.read

def rowsOf (s : Store) (id : Int) : Nat := s.spiders.countP (·.id == id)

-- Every row of the spider with this id changes.
def change (s : Store) (id : Int) (f : SpiderRow → SpiderRow) : Store :=
  { s with spiders := s.spiders.map fun r => if r.id = id then f r else r }

-- ### Logs

-- Newest first, at most `limit`.
def spiderLogs (s : Store) (spider : Int) (limit : Nat) : List LogEntry :=
  ((s.logs.reverse.filter (·.spider == spider)).take limit).map LogRow.read

-- Oldest first.
def executionLogs (s : Store) (execution : String) : List LogEntry :=
  (s.logs.filter (·.execution == some execution)).map LogRow.read

-- ### Files

def fileRow? (s : Store) (spider : Int) (path : String) : Option FileRow :=
  s.files.find? fun r => r.spider == spider && r.path == path

def file? (s : Store) (spider : Int) (path : String) : Option FileEntry :=
  (s.fileRow? spider path).map FileRow.read

def largestSize : Nat := Nat.pow 2 63 - 1

-- Newest first.
def spiderFiles (s : Store) (spider : Int) : List FileEntry :=
  (s.files.reverse.filter (·.spider == spider)).map FileRow.read

-- ### Settings

def setting? (s : Store) (key : String) : Option String :=
  (s.settings.find? (·.1 == key)).map (·.2)

def setSetting (s : Store) (key value : String) : Store :=
  { s with settings := s.settings.filter (·.1 != key) ++ [(key, value)] }

-- ### Direct changes of stored columns

-- Everything that belongs to the spider goes with it.
def delete (s : Store) (id : Int) : Store :=
  { s with
    spiders := s.spiders.filter (·.id != id)
    logs := s.logs.filter (·.spider != id)
    files := s.files.filter (·.spider != id) }

def changeLog (s : Store) (id : Int) (f : LogRow → LogRow) : Store :=
  { s with logs := s.logs.map fun r => if r.id = id then f r else r }

def changeFile (s : Store) (id : Int) (f : FileRow → FileRow) : Store :=
  { s with files := s.files.map fun r => if r.id = id then f r else r }

end Store

end Spiderworks
