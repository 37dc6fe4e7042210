import Spiderworks.CommandLine.Execution
import Spiderworks.Shell.Run

namespace Spiderworks.Program

-- With arguments the program carries out one command in an empty workspace. Without any it reads
-- its standard input line by line, in one workspace: a list of words is a command line, and an
-- object holds files for the working directory by their names.
def workingDirectory : String := "/work"

def emptyWorkspace : Workspace where
  disk := (Disk.empty.makeDirectories workingDirectory).toOption.getD .empty
  directory := workingDirectory
  databases := []
  named := 0
  readings := 0

def place (w : Workspace) (file : String × Json) : Workspace :=
  let bytes := Utf8.encode (file.2.string?.getD "")
  { w with disk := (w.disk.writeWithParents (w.path file.1) bytes).toOption.getD w.disk }

def noNetwork : Worker.Network := fun _ _ => .error "there is no network"

-- Execution names count up from a random number; the time stands still during a command.
def surroundings : IO Surroundings := do
  let seed ← IO.rand 0 (Nat.pow 2 62)
  let nanos ← IO.monoNanosNow
  return {
    self := CommandLine.programName
    network := noNetwork
    platform := Shell.platform
    removal := fun _ _ => none
    names := fun n => ExecutionName.ofNumber (seed * Nat.pow 2 64 + n)
    clock := fun _ => ⟨(nanos / Time.billion : Nat), nanos % Time.billion⟩ }

def obey (w : Workspace) (args : List String) : IO (UInt32 × Workspace) := do
  let (o, w) := CommandLine.perform (← surroundings) none w args
  (← IO.getStdout).putStr o.output
  (← IO.getStderr).putStr o.errors
  return (UInt32.ofNat o.code, w)

partial def session (w : Workspace) (code : UInt32) : IO UInt32 := do
  let line ← (← IO.getStdin).getLine
  if line.isEmpty then return code
  match Json.read? line with
  | some (.obj files) => session (files.foldl place w) code
  | some (.arr words) =>
    let (code, w) ← obey w (words.map fun v => v.string?.getD "")
    session w code
  | _ => session w 2

end Spiderworks.Program

def main (args : List String) : IO UInt32 := do
  if args.isEmpty then Spiderworks.Program.session Spiderworks.Program.emptyWorkspace 0
  else return (← Spiderworks.Program.obey Spiderworks.Program.emptyWorkspace args).1
