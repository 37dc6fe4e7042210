import Spiderworks.Spider.Status
import Spiderworks.Text.Digits
import Spiderworks.Time.Instant

namespace Spiderworks

-- ### Words

-- A row holds what is stored, word for word; reading a row gives a record, in which words that are
-- not known have become their defaults.
inductive LogLevel where
  | info
  | warning
  | error
  deriving DecidableEq, Repr, Inhabited

namespace LogLevel

def name : LogLevel → String
  | .info => "INFO"
  | .warning => "WARNING"
  | .error => "ERROR"

def all : List LogLevel := [.info, .warning, .error]

def ofName? (s : String) : Option LogLevel := all.find? (·.name == s)

theorem ofName?_name (l : LogLevel) : ofName? l.name = some l := by cases l <;> decide

end LogLevel

-- Who wrote a log entry: the engine about a run, the process of a spider on its two streams, the
-- user, the scheduler, or the engine about a direct call.
inductive LogSource where
  | spiderRunner
  | spiderOutput
  | spiderError
  | user
  | scheduler
  | apiCall
  deriving DecidableEq, Repr, Inhabited

namespace LogSource

def name : LogSource → String
  | .spiderRunner => "spider_runner"
  | .spiderOutput => "spider_output"
  | .spiderError => "spider_error"
  | .user => "user"
  | .scheduler => "scheduler"
  | .apiCall => "api_call"

def all : List LogSource :=
  [.spiderRunner, .spiderOutput, .spiderError, .user, .scheduler, .apiCall]

def ofName? (s : String) : Option LogSource := all.find? (·.name == s)

theorem ofName?_name (s : LogSource) : ofName? s.name = some s := by cases s <;> decide

end LogSource

-- ### Errors

inductive StoreError where
  | unknownSpider (id : Int)
  | nameTaken (name : String)
  | noSuchOwner
  | noRow
  | outOfRange (value : Int) (column : Nat)
  | notWhole (column : Nat)
  | refused (reason : String)
  | poisoned
  deriving DecidableEq, Repr

def counterColumns : List (Nat × String) :=
  [(9, "run_count"), (10, "success_count"), (11, "error_count")]

def StoreError.message : StoreError → String
  | .unknownSpider id => "Spider not found: " ++ String.ofList (Text.ofInt id)
  | .nameTaken name => "Constraint violation: spider name '" ++ name ++ "' already exists"
  | .noSuchOwner => "SQLite error: FOREIGN KEY constraint failed"
  | .noRow => "SQLite error: Query returned no rows"
  | .outOfRange value column =>
    "SQLite error: Integer " ++ String.ofList (Text.ofInt value) ++ " out of range at index " ++
      String.ofList (Text.ofNat column)
  | .notWhole column =>
    "SQLite error: Invalid column type Real at index: " ++ String.ofList (Text.ofNat column) ++
      ", name: " ++ ((counterColumns.find? (·.1 == column)).map (·.2)).getD ""
  | .refused reason => "Database error: " ++ reason
  | .poisoned => "Storage lock poisoned"

-- ### Spiders

structure NewSpider where
  name : String
  description : Option String
  code : String
  config : String
  deriving DecidableEq, Repr

structure SpiderRow where
  id : Int
  name : String
  description : Option String
  code : String
  status : String
  config : String
  lastRun : Option String
  runs : Int
  successes : Int
  errors : Int
  deriving DecidableEq, Repr

structure Spider where
  id : Int
  name : String
  description : Option String
  code : String
  status : Status
  config : String
  lastRun : Option String
  runs : Nat
  successes : Nat
  errors : Nat
  deriving DecidableEq, Repr

-- A counter is read when it takes no more than 32 bits.
def readCounter (column : Nat) (n : Int) : Except StoreError Nat :=
  if 0 ≤ n ∧ n < Int.pow 2 32 then .ok n.toNat
  else if n < Int.pow 2 63 then .error (.outOfRange n column)
  else .error (.notWhole column)

-- A counter stays where it is once it has left the whole numbers that can be stored.
def bump (n : Int) : Int := if n < Int.pow 2 63 then n + 1 else n

def SpiderRow.read (r : SpiderRow) : Except StoreError Spider := do
  let runs ← readCounter 9 r.runs
  let successes ← readCounter 10 r.successes
  let errors ← readCounter 11 r.errors
  return ⟨r.id, r.name, r.description, r.code, (Status.ofName? r.status).getD .inactive, r.config,
    r.lastRun, runs, successes, errors⟩

-- ### Log entries

structure NewLog where
  spider : Int
  level : LogLevel
  source : LogSource
  message : String
  execution : Option String
  deriving DecidableEq, Repr

structure LogRow where
  id : Int
  spider : Int
  level : String
  source : Option String
  message : String
  execution : Option String
  time : Time.Instant
  deriving DecidableEq, Repr

structure LogEntry where
  id : Int
  spider : Int
  level : LogLevel
  source : Option LogSource
  message : String
  execution : Option String
  time : Time.Instant
  deriving DecidableEq, Repr

def LogRow.read (r : LogRow) : LogEntry :=
  ⟨r.id, r.spider, (LogLevel.ofName? r.level).getD .info, r.source.bind LogSource.ofName?,
    r.message, r.execution, r.time⟩

-- ### Files

structure NewFile where
  spider : Int
  filename : String
  path : String
  kind : String
  size : Nat
  execution : Option String
  description : Option String
  tags : Option String
  deriving DecidableEq, Repr

structure FileRow where
  id : Int
  spider : Int
  filename : String
  path : String
  kind : Option String
  size : Int
  execution : Option String
  description : Option String
  tags : Option String
  time : Time.Instant
  deriving DecidableEq, Repr

structure FileEntry where
  id : Int
  spider : Int
  filename : String
  path : String
  kind : String
  size : Nat
  execution : Option String
  description : Option String
  tags : Option String
  time : Time.Instant
  deriving DecidableEq, Repr

def FileRow.read (r : FileRow) : FileEntry :=
  ⟨r.id, r.spider, r.filename, r.path, r.kind.getD "unknown", r.size.toNat, r.execution,
    r.description, r.tags, r.time⟩

end Spiderworks
