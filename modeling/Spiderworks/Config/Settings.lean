import Spiderworks.Text.Blank
import Spiderworks.Toml.Reader

namespace Spiderworks

-- Times are in seconds, the interval between direct calls in minutes.
structure Config where
  interpreter : String := "python3"
  files : String := "spider_files"
  logs : String := "spider_logs"
  scripts : String := "spider_scripts"
  grace : Nat := 5
  timeout : Nat := 300
  worker : Option String := none
  interval : Nat := 5
  database : String := "spider_management.db"
  deriving DecidableEq, Repr

-- The values are checked one after the other, and the first that cannot be used decides.
inductive ConfigFault where
  | noInterpreter
  | noDirectory (key : String)
  | nulInDirectory (key : String)
  | grace (n : Nat)
  | timeout (n : Nat)
  | noWorker
  | interval (n : Nat)
  | noDatabase
  deriving DecidableEq, Repr

inductive ConfigError where
  | unreadable
  | invalid (f : ConfigFault)
  deriving DecidableEq, Repr

def maxGrace : Nat := 300

-- One week.
def maxInterval : Nat := 7 * 24 * 60

def ConfigFault.message : ConfigFault → String
  | .noInterpreter => "interpreter cannot be empty"
  | .noDirectory key => key ++ " cannot be empty"
  | .nulInDirectory key => key ++ " contains a NUL byte"
  | .grace n =>
    "stop-grace-seconds must be between 1 and " ++ String.ofList (Text.ofNat maxGrace) ++
      ", got " ++ String.ofList (Text.ofNat n)
  | .timeout n =>
    "direct-call-timeout-seconds must be >= 1, got " ++ String.ofList (Text.ofNat n)
  | .noWorker => "worker-program cannot be empty when set"
  | .interval n =>
    "interval-minutes must be <= " ++ String.ofList (Text.ofNat maxInterval) ++ ", got " ++
      String.ofList (Text.ofNat n)
  | .noDatabase => "database-path cannot be empty"

def ConfigError.message : ConfigError → String
  | .unreadable => "Failed to parse TOML"
  | .invalid f => "Validation error: " ++ f.message

namespace Config

-- ### Values

def text? : Toml → Option String
  | .string s => some s
  | _ => none

def natBelow? (bound : Nat) : Toml → Option Nat
  | .integer n => if 0 ≤ n ∧ n < bound then some n.toNat else none
  | _ => none

-- The fields of a section: by name, or in order. A moment has no field that anyone knows.
def section? (keys : List String) : Toml → Option Toml.Entries
  | .table _ entries => some entries
  | .array _ items => some (keys.zip items)
  | .moment => some []
  | _ => none

-- A field that is absent keeps the value that it has.
def field {α : Type} (entries : Toml.Entries) (key : String) (read : Toml → Option α)
    (usual : α) : Option α :=
  match Toml.lookup? entries key with
  | none => some usual
  | some v => read v

-- ### Sections

def engineKeys : List String :=
  ["interpreter", "files-dir", "logs-dir", "scripts-dir", "stop-grace-seconds",
    "direct-call-timeout-seconds", "worker-program"]

def readEngine (c : Config) (v : Toml) : Option Config := do
  let es ← section? engineKeys v
  let interpreter ← field es "interpreter" text? c.interpreter
  let files ← field es "files-dir" text? c.files
  let logs ← field es "logs-dir" text? c.logs
  let scripts ← field es "scripts-dir" text? c.scripts
  let grace ← field es "stop-grace-seconds" (natBelow? (Nat.pow 2 64)) c.grace
  let timeout ← field es "direct-call-timeout-seconds" (natBelow? (Nat.pow 2 64)) c.timeout
  let worker ← field es "worker-program" (fun v => (text? v).map some) c.worker
  return { c with interpreter, files, logs, scripts, grace, timeout, worker }

def readRateLimit (c : Config) (v : Toml) : Option Config := do
  let es ← section? ["interval-minutes"] v
  return { c with interval := ← field es "interval-minutes" (natBelow? (Nat.pow 2 32)) c.interval }

def readStorage (c : Config) (v : Toml) : Option Config := do
  let es ← section? ["database-path"] v
  return { c with database := ← field es "database-path" text? c.database }

def ofEntries (es : Toml.Entries) : Option Config := do
  let c ← field es "engine" (readEngine {}) {}
  let c ← field es "rate-limit" c.readRateLimit c
  field es "storage" c.readStorage c

-- ### Checks

def isBlank (s : String) : Bool := Text.isBlankText s.toList

def directories (c : Config) : List (String × String) :=
  [("files-dir", c.files), ("logs-dir", c.logs), ("scripts-dir", c.scripts)]

def directoryFault? (d : String × String) : Option ConfigFault :=
  if isBlank d.2 then some (.noDirectory d.1)
  else if d.2.toList.contains '\x00' then some (.nulInDirectory d.1)
  else none

def isBlankWorker : Option String → Bool
  | some w => isBlank w
  | none => false

-- The first fault, if there is one.
def fault? (c : Config) : Option ConfigFault :=
  if isBlank c.interpreter then some .noInterpreter
  else
    match c.directories.findSome? directoryFault? with
    | some f => some f
    | none =>
      if c.grace < 1 ∨ maxGrace < c.grace then some (.grace c.grace)
      else if c.timeout < 1 then some (.timeout c.timeout)
      else if isBlankWorker c.worker then some .noWorker
      else if maxInterval < c.interval then some (.interval c.interval)
      else if c.database.isEmpty then some .noDatabase
      else none

def read (text : String) : Except ConfigError Config :=
  match (Toml.read? text).bind ofEntries with
  | none => .error .unreadable
  | some c =>
    match c.fault? with
    | some f => .error (.invalid f)
    | none => .ok c

end Config

end Spiderworks
