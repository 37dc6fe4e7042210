import Spiderworks.Json.Printer
import Spiderworks.Json.Reader
import Spiderworks.Process.Child
import Spiderworks.Text.Blank
import Spiderworks.Text.Lines

namespace Spiderworks

inductive DirectFailure where
  | timeout
  | nonZeroExit (code : Int)
  | noResult
  | internal
  deriving DecidableEq, Repr

-- A spider reports by a JSON object on a line of its output of its own; the last such line counts.
-- The fields of the engine are never taken from it, and what has no field here is carried along.
structure DirectResult where
  success : Bool
  spider : Int
  name : String
  execution : String
  data : List Json
  count : Nat
  url : String
  note : Option String
  error : Option String
  seconds : Float
  timestamp : Option Float
  failure : Option DirectFailure
  output : Option String
  errors : Option String
  extra : List (String × Json)

-- ### Finding the object

def isObjectLine (line : List Char) : Bool :=
  line.head? == some '{' && line.getLast? == some '}'

def objectOfLine? (line : List Char) : Option (List (String × Json)) :=
  if isObjectLine line then
    match Json.read? (String.ofList line) with
    | some (.obj entries) => some entries
    | _ => none
  else none

def reportedObject? (output : String) : Option (List (String × Json)) :=
  ((Text.lines output.toList).reverse.map Text.trim).findSome? objectOfLine?

-- ### From the object

namespace DirectResult

def blank (spider : Int) (name execution : String) : DirectResult where
  success := false
  spider := spider
  name := name
  execution := execution
  data := []
  count := 0
  url := ""
  note := none
  error := none
  seconds := 0.0
  timestamp := none
  failure := none
  output := none
  errors := none
  extra := []

-- The fields that are read, in the order in which they are taken out, and those that are the
-- engine's own.
def readKeys : List String := ["success", "data", "count", "url", "message", "error", "timestamp"]

def ownKeys : List String :=
  ["spider_id", "spider_name", "execution_id", "execution_time", "failure", "stdout", "stderr"]

def dataOf : Option Json → List Json
  | some (.arr items) => items
  | none | some .null => []
  | some other => [other]

def countOf : Option Json → Option Nat
  | some (.num n) => n.toNat?
  | _ => none

def textOf : Json → String
  | .str s => s
  | .null => ""
  | other => Json.compact other

def timestampOf : Option Json → Option Float
  | some (.num n) => some n.toFloat
  | _ => none

def ofObject (spider : Int) (name execution : String) (object : List (String × Json)) :
    DirectResult :=
  let get := Entries.get? object
  let data := dataOf (get "data")
  { blank spider name execution with
    success := match get "success" with
      | some (.bool b) => b
      | _ => false
    data := data
    count := (countOf (get "count")).getD data.length
    url := ((get "url").map textOf).getD ""
    note := (get "message").map textOf
    error := (get "error").map textOf
    timestamp := timestampOf (get "timestamp")
    extra := (readKeys ++ ownKeys).foldl Entries.takeOut object }

def failed (spider : Int) (name execution : String) (failure : DirectFailure) (error : String)
    (output : Option ProcessOutput) : DirectResult :=
  { blank spider name execution with
    failure := some failure
    error := some error
    output := output.map (·.output)
    errors := output.map (·.errors) }

-- A few words for the log.
def summary (r : DirectResult) : String :=
  if r.success then "extracted " ++ String.ofList (Text.ofNat r.count) ++ " records"
  else (r.error.or r.note).getD "unknown error"

-- ### Printing

def failureJson : DirectFailure → Json
  | .timeout => .obj [("kind", .str "timeout")]
  | .nonZeroExit code => .obj [("kind", .str "non_zero_exit"), ("exit_code", .ofInt code)]
  | .noResult => .obj [("kind", .str "result_parse_failure")]
  | .internal => .obj [("kind", .str "internal")]

def optional (key : String) (v : Option Json) : List (String × Json) :=
  match v with
  | some v => [(key, v)]
  | none => []

def entries (r : DirectResult) : List (String × Json) :=
  [("success", .bool r.success), ("spider_id", .ofInt r.spider), ("spider_name", .str r.name),
      ("execution_id", .str r.execution), ("data", .arr r.data), ("count", .ofNat r.count),
      ("url", .str r.url)] ++
    optional "message" (r.note.map .str) ++ optional "error" (r.error.map .str) ++
    [("execution_time", .num (.double r.seconds))] ++
    optional "timestamp" (r.timestamp.map fun t => .num (.double t)) ++
    optional "failure" (r.failure.map failureJson) ++
    optional "stdout" (r.output.map .str) ++ optional "stderr" (r.errors.map .str) ++ r.extra

def json (r : DirectResult) : Json := .obj r.entries

end DirectResult

end Spiderworks
