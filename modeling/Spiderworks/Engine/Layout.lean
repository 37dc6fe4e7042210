import Spiderworks.Disk.Basic

namespace Spiderworks

-- Below the three directories: `spider_<id>/<execution>/` for what a spider writes,
-- `spider_<id>/<execution>_<stream>.log` for its captured streams, and
-- `spider_<id>_<execution>.<ext>` for its program.
structure Layout where
  files : String
  logs : String
  scripts : String
  deriving DecidableEq, Repr

inductive Stream where
  | output
  | errors
  deriving DecidableEq, Repr

def Stream.name : Stream → String
  | .output => "stdout"
  | .errors => "stderr"

namespace Layout

def spiderName (spider : Int) : String := "spider_" ++ String.ofList (Text.ofInt spider)

def outputDir (l : Layout) (spider : Int) (execution : String) : String :=
  Path.join (Path.join l.files (spiderName spider)) execution

def streamLogNamed (l : Layout) (spider : Int) (execution stream : String) : String :=
  Path.join (Path.join l.logs (spiderName spider)) (execution ++ "_" ++ stream ++ ".log")

def streamLog (l : Layout) (spider : Int) (execution : String) (stream : Stream) : String :=
  l.streamLogNamed spider execution stream.name

def script (l : Layout) (spider : Int) (execution extension : String) : String :=
  Path.join l.scripts (spiderName spider ++ "_" ++ execution ++ "." ++ extension)

def prepareDirectory (d : Disk) (path : String) : Except IoError (String × Disk) := do
  let d ← d.makeDirectories path
  return (← d.canonical path, d)

-- The three directories are made, and known by their canonical paths from then on.
def prepare (d : Disk) (files logs scripts : String) : Except IoError (Layout × Disk) := do
  let (files, d) ← prepareDirectory d files
  let (logs, d) ← prepareDirectory d logs
  let (scripts, d) ← prepareDirectory d scripts
  return (⟨files, logs, scripts⟩, d)

end Layout

namespace ExecutionName

-- The last `width` digits.
def digits (width n : Nat) : List Char :=
  (List.range width).reverse.map fun k => Text.hexDigit (n / Nat.pow 16 k % 16)

-- How many digits a group has, and how many stand to the right of it.
def groups : List (Nat × Nat) := [(8, 24), (4, 20), (4, 16), (4, 12), (12, 0)]

-- The name of an execution is a number of 128 bits.
def ofNumber (n : Nat) : String :=
  String.intercalate "-" (groups.map fun (width, right) =>
    String.ofList (digits width (n / Nat.pow 16 right)))

end ExecutionName

end Spiderworks
