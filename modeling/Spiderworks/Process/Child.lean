import Spiderworks.Disk.Basic
import Spiderworks.Process.ExitCode
import Spiderworks.Text.Utf8

namespace Spiderworks

def sigTerm : Nat := 15

def sigKill : Nat := 9

inductive Course where
  | ends (e : Ending)
  | hangs (ignoresTerm : Bool)
  deriving DecidableEq, Repr

-- What a process does is decided when it is launched. It ends at once or hangs; one that hangs is
-- ended by a signal, and may ignore the polite one.
structure Child where
  output : List UInt8
  errors : List UInt8
  files : List (String × List UInt8)
  course : Course
  deriving DecidableEq, Repr

structure ProcessOutput where
  output : String
  errors : String
  code : Int
  deriving DecidableEq, Repr

def ProcessOutput.isSuccess (o : ProcessOutput) : Bool := o.code == 0

-- Variables that are set later hide earlier ones of the same name.
structure Launch where
  command : String
  args : List String
  environment : List (String × String)
  directory : Option String
  deriving DecidableEq, Repr

def Launch.valueOf? (l : Launch) (name : String) : Option String :=
  (l.environment.reverse.find? (·.1 == name)).map (·.2)

def Launch.texts (l : Launch) : List String :=
  l.command :: l.args ++ l.environment.flatMap (fun (name, value) => [name, value]) ++
    l.directory.toList

-- What a launch leads to, on this disk.
abbrev Platform := Launch → Disk → Except IoError Child

-- No text of a launch holds a NUL.
def Platform.launch (p : Platform) (l : Launch) (d : Disk) : Except IoError Child :=
  if l.texts.any (·.toList.contains '\x00') then .error .nulInLaunch else p l d

-- ### Coming to an end

namespace Course

-- The end that comes by itself.
def byItself : Course → Option Ending
  | .ends e => some e
  | .hangs _ => none

-- Nothing ends a process twice.
def killed : Course → Ending
  | .ends e => e
  | .hangs _ => .signalled sigKill

def terminated : Course → Option Ending
  | .ends e => some e
  | .hangs false => some (.signalled sigTerm)
  | .hangs true => none

-- A polite signal, and a kill when that has not helped in time.
def shutDown (c : Course) : Ending := c.terminated.getD c.killed

end Course

namespace Child

def outputAt (c : Child) (e : Ending) : ProcessOutput :=
  ⟨Utf8.lenient c.output, Utf8.lenient c.errors, e.code⟩

inductive WaitOutcome where
  | exited (o : ProcessOutput)
  | timedOut (o : ProcessOutput)

-- A process is killed when its time is over. No time at all ends every process before it begins.
def waitAtMost (c : Child) (limit : Nat) : WaitOutcome :=
  if limit = 0 then .timedOut ⟨"", "", (Ending.signalled sigKill).code⟩
  else
    match c.course.byItself with
    | some e => .exited (c.outputAt e)
    | none => .timedOut (c.outputAt c.course.killed)

-- The files of a process, written to its output directory; those that cannot be written are left.
def leaveFiles (c : Child) (directory : String) (d : Disk) : Disk :=
  c.files.foldl (fun d f =>
    match d.writeWithParents (Path.join directory f.1) f.2 with
    | .ok d => d
    | .error _ => d) d

end Child

end Spiderworks
