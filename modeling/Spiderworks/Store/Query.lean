import Spiderworks.Store.Basic

namespace Spiderworks

open Time (Instant)

-- The tables as they are now, and as they were at each point that there is still a way back to, the
-- last of these points first.
structure Journal where
  tables : Store
  points : List Store

-- What a request does to the tables. By the time it finds that it fails, it may have changed them.
abbrev Query := ExceptT StoreError (StateM Journal)

def Journal.run {α : Type} (j : Journal) (p : Query α) : Except StoreError α × Journal :=
  (ExceptT.run p).run j

namespace Query

def tables : Query Store := return (← get).tables

def put (s : Store) : Query Unit := modify fun j => { j with tables := s }

def setPoint : Query Unit := modify fun j => { j with points := j.tables :: j.points }

def dropPoint : Query Unit := modify fun j => { j with points := j.points.tail }

-- Back to the last point, which is gone then.
def goBack : Query Unit := modify fun j => ⟨j.points.headD j.tables, j.points.tail⟩

def undoing {α : Type} (p : Query α) : Query α := do
  setPoint
  let a ← tryCatch p fun e => do
    goBack
    throw e
  dropPoint
  return a

-- A statement that fails in the middle takes back what it has changed, and only that.
def statement {α : Type} (p : Query α) : Query α := undoing p

-- A transaction that is left before its end takes back what all of its statements have changed.
def transaction {α : Type} (p : Query α) : Query α := undoing p

def look {α : Type} (f : Store → Except StoreError α) : Query α := do
  match f (← tables) with
  | .ok a => return a
  | .error e => throw e

-- The result, and the tables that are left behind.
def on {α : Type} (p : Query α) (s : Store) : Except StoreError α × Store :=
  let (result, j) := (Journal.mk s []).run p
  (result, j.tables)

-- ### Spiders

-- Names are compared when the row is in the table.
def create (n : NewSpider) : Query Int := statement do
  let s ← tables
  let id := s.lastSpider + 1
  let row : SpiderRow :=
    ⟨id, n.name, n.description, n.code, Status.inactive.name, n.config, none, 0, 0, 0⟩
  put { s with spiders := s.spiders ++ [row], lastSpider := id }
  if s.spiders.any (·.name == n.name) then throw (.nameTaken n.name)
  return id

-- How many rows have changed is looked at when the statement is over.
def update (id : Int) (f : SpiderRow → SpiderRow) : Query Unit := do
  let changed ← statement do
    let s ← tables
    put (s.change id f)
    return s.rowsOf id
  if changed = 0 then throw (.unknownSpider id)

def setStatus (id : Int) (status : Status) : Query Unit :=
  update id fun r => { r with status := status.name }

-- Counting a run also notes its time.
def countRun (now : Instant) (id : Int) : Query Unit :=
  update id fun r => { r with runs := bump r.runs, lastRun := some (String.ofList now.rfc3339) }

def countSuccess (id : Int) : Query Unit :=
  update id fun r => { r with successes := bump r.successes }

def countError (id : Int) : Query Unit :=
  update id fun r => { r with errors := bump r.errors }

-- ### Logs

-- That there is such a spider is looked at when the row is in the table.
def appendLog (now : Instant) (n : NewLog) : Query Int := statement do
  let s ← tables
  let id := s.lastLog + 1
  let row : LogRow := ⟨id, n.spider, n.level.name, some n.source.name, n.message, n.execution, now⟩
  put { s with logs := s.logs ++ [row], lastLog := id }
  if !s.has n.spider then throw .noSuchOwner
  return id

-- One entry after the other, each with its own time. Those before the first that fails stay.
def appendEach : List (NewLog × Instant) → Query Unit
  | [] => return ()
  | (n, now) :: rest => do
    let _ ← appendLog now n
    appendEach rest

-- All entries, or none.
def appendLogs (entries : List (NewLog × Instant)) : Query Unit :=
  transaction (appendEach entries)

-- ### Files

-- A path that is known keeps its row, though an id is used up.
def insertFile (now : Instant) (n : NewFile) : Query Unit := statement do
  let s ← tables
  let id := s.lastFile + 1
  match s.fileRow? n.spider n.path with
  | some _ => put { s with lastFile := id }
  | none =>
    let row : FileRow := ⟨id, n.spider, n.filename, n.path, some n.kind,
      min n.size Store.largestSize, n.execution, n.description, n.tags, now⟩
    put { s with files := s.files ++ [row], lastFile := id }
    if !s.has n.spider then throw .noSuchOwner

-- The id is that of the row that has the path by now.
def registerFile (now : Instant) (n : NewFile) : Query Int := do
  insertFile now n
  match (← tables).fileRow? n.spider n.path with
  | some row => return row.id
  | none => throw .noRow

-- ### Settings

def setSetting (key value : String) : Query Unit := statement do
  put ((← tables).setSetting key value)

end Query

end Spiderworks
