import Spiderworks.Extract.Records
import Spiderworks.Html.Reader
import Spiderworks.Worker.Request

namespace Spiderworks.Worker

open Extract (Record)

def resultsFile : String := "spider_results.json"

def load (d : Disk) (path : String) : Except WorkerError Program :=
  match d.readText path with
  | .error e => .error (.io e)
  | .ok text =>
    match Program.read text with
    | .error e => .error (.program e)
    | .ok p => .ok p

def collect (net : Network) (p : Program) : Except Trouble (List Record) := do
  prepare p.ruleSet
  let page ← (fetchPage net p.ruleSet).ending
  return Extract.records (Html.read page) p.ruleSet.rules

-- ### Reports

def recordJson (r : Record) : Json := .obj (r.map fun (k, v) => (k, .str v))

def summary (p : Program) (timestamp : Float) (success : Bool) (records : List Record)
    (closing : String × String) : Json :=
  .obj [("success", .bool success), ("data", .arr (records.map recordJson)),
    ("count", .ofNat records.length), ("url", .str p.ruleSet.url),
    ("timestamp", .num (.double timestamp)), ("spider_id", .ofInt p.spider),
    ("execution_id", .str p.execution), (closing.1, .str closing.2)]

def successSummary (p : Program) (timestamp : Float) (records : List Record) : Json :=
  if records.isEmpty then summary p timestamp false [] ("message", "No data extracted")
  else
    summary p timestamp true records
      ("message", "Extracted " ++ String.ofList (Text.ofNat records.length) ++ " records")

def failureSummary (p : Program) (timestamp : Float) (error : String) : Json :=
  summary p timestamp false [] ("error", error)

-- ### The end of a run

structure Report where
  code : Nat
  output : String
  errors : String
  disk : Disk

inductive WorkerEnd where
  | report (r : Report)
  | brokenOff

def line (v : Json) : String := Json.compact v ++ "\n"

def deliver (p : Program) (timestamp : Float) (outputDir : String) (d : Disk)
    (records : List Record) : Except WorkerError (String × Disk) :=
  match p.mode with
  | .direct => .ok (line (successSummary p timestamp records), d)
  | .files =>
    let text := Json.pretty (.arr (records.map recordJson))
    let written := do
      let d ← d.makeDirectories outputDir
      d.write (Path.join outputDir resultsFile) (Utf8.encode text)
    match written with
    | .ok d => .ok ("", d)
    | .error e => .error (.io e)

def failureReport (p : Program) (timestamp : Float) (d : Disk) (e : WorkerError) : Report where
  code := 1
  output := match p.mode with
    | .files => ""
    | .direct => line (failureSummary p timestamp e.message)
  errors := "ERROR: Rule spider failed: " ++ e.message ++ "\n"
  disk := d

def execute (net : Network) (p : Program) (timestamp : Float) (outputDir : String) (d : Disk) :
    WorkerEnd :=
  match collect net p with
  | .error .brokenOff => .brokenOff
  | .error (.told e) => .report (failureReport p timestamp d e)
  | .ok records =>
    match deliver p timestamp outputDir d records with
    | .ok (output, d) => .report ⟨0, output, "", d⟩
    | .error e => .report (failureReport p timestamp d e)

end Spiderworks.Worker
