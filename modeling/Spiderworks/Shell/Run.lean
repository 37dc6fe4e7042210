import Spiderworks.Process.Commands
import Spiderworks.Shell.Script

namespace Spiderworks.Shell

-- `args` begin with the name of the script. A script that is deaf does not heed the polite signal.
structure State where
  disk : Disk
  directory : String
  args : List String
  bindings : List (String × String)
  output : List UInt8
  errors : List UInt8
  written : List String
  status : Nat
  slept : Nat
  deaf : Bool

namespace State

-- ### Values

def value? (s : State) (name : String) : Option String :=
  match name with
  | "@" | "*" => some (String.intercalate " " s.args.tail)
  | "#" => some (String.ofList (Text.ofNat s.args.tail.length))
  | "?" => some (String.ofList (Text.ofNat s.status))
  | "$" => some "$$"
  | _ =>
    if name.toList.all Text.isDigit then s.args[Text.digitsValue name.toList]?
    else (s.bindings.reverse.find? (·.1 == name)).map (·.2)

def pieceText (s : State) : Piece → String
  | .text t => t
  | .value name fallback =>
    match s.value? name with
    | none | some "" => fallback
    | some t => t

def wordText (s : State) (w : Word) : String := String.join (w.pieces.map s.pieceText)

def expand (s : State) (ws : List Word) : List String :=
  ws.filterMap fun w =>
    let t := s.wordText w
    if t.isEmpty && !w.quoted then none else some t

-- ### Files

def path (s : State) (p : String) : String := Path.join s.directory p

def writeFile (s : State) (append : Bool) (p : String) (bytes : List UInt8) : State :=
  let p := s.path p
  let old := if append then (s.disk.read p).toOption.getD [] else []
  match s.disk.write p (old ++ bytes) with
  | .ok d => { s with disk := d, written := s.written.filter (· != p) ++ [p] }
  | .error _ => { s with status := 1 }

def touch (s : State) (p : String) : State :=
  match s.disk.stat (s.path p) with
  | .ok _ => s
  | .error _ => s.writeFile false p []

def makeDirectory (s : State) (p : String) : State :=
  { s with disk := (s.disk.makeDirectories (s.path p)).toOption.getD s.disk }

def files (s : State) : List (String × List UInt8) :=
  s.written.filterMap fun p => (s.disk.read p).toOption.map fun bytes => (p, bytes)

-- ### Streams

-- Where a stream goes in the end: to a file, or to one of the two streams of the process.
inductive Target where
  | file (append : Bool) (path : String)
  | stream (n : Nat)

abbrev Targets := Nat → Target

def redirected (s : State) (c : Command) : Targets :=
  c.redirects.foldl (fun (t : Targets) (n, sink, w) =>
    match sink with
    | .file append => fun k => if k = n then .file append (s.wordText w) else t k
    | .stream m => fun k => if k = n then t m else t k
    | .input => t) fun n => .stream n

def isSwallowed (p : String) : Bool := p == "/dev/null"

-- Every file that is named comes into being, also when nothing is written to it.
def say (s : State) (t : Target) (bytes : List UInt8) : State :=
  match t with
  | .file append p =>
    if isSwallowed p then s else s.writeFile (append || (s.written.contains (s.path p))) p bytes
  | .stream 1 => { s with output := s.output ++ bytes }
  | .stream _ => { s with errors := s.errors ++ bytes }

def openFiles (s : State) (c : Command) : State :=
  c.redirects.foldl (fun s (_, sink, w) =>
    match sink with
    | .file append =>
      let p := s.wordText w
      if isSwallowed p then s else if append then s.touch p else s.writeFile false p []
    | _ => s) s

end State

-- ### Commands

-- What a command says, how it ends, and whether the script ends with it.
structure Reply where
  state : State
  output : List UInt8
  errors : List UInt8
  course : Option Course

def quiet (s : State) (status : Nat) : Reply := ⟨{ s with status }, [], [], none⟩

def ofChild (s : State) (c : Child) : Reply :=
  let status := match c.course with
    | .ends (.exited n) => n
    | _ => 0
  ⟨{ s with status }, c.output, c.errors, none⟩

def echo (s : State) (args : List String) : Reply :=
  let (newline, args) := match args with
    | "-n" :: rest => (false, rest)
    | _ => (true, args)
  let text := Commands.styledText ⟨newline, true⟩ args
  ⟨{ s with status := 0 }, Utf8.encode text, [], none⟩

-- The form with its places filled in, one after the other.
def filled : List Char → List String → List Char
  | '%' :: '%' :: form, args => '%' :: filled form args
  | '%' :: c :: form, args =>
    if c = 's' ∨ c = 'd' then (args.headD "").toList ++ filled form args.tail
    else '%' :: c :: filled form args
  | c :: form, args => c :: filled form args
  | [], _ => []

def printf (s : State) : List String → Reply
  | [] => quiet s 2
  | form :: args =>
    let form := (Commands.unescape form.toList).filterMap id
    ⟨{ s with status := 0 }, Utf8.encode (String.ofList (filled form args)), [], none⟩

-- A script that sleeps for longer than this many seconds in all is taken to hang.
def patience : Nat := 2

def State.hang (s : State) : Course := .hangs s.deaf

def sleep (s : State) (time : String) : Reply :=
  let seconds := Text.digitsValue (time.toList.takeWhile Text.isDigit)
  let s := { s with slept := s.slept + seconds, status := 0 }
  ⟨s, [], [], if patience < s.slept then some s.hang else none⟩

def exit (s : State) (code : Option String) : Reply :=
  let n := match code with
    | some c => Text.digitsValue (c.toList.filter Text.isDigit) % 256
    | none => s.status
  ⟨s, [], [], some (.ends (.exited n))⟩

def signals : List (String × Nat) :=
  [("TERM", sigTerm), ("KILL", sigKill), ("INT", 2), ("HUP", 1)]

def signalOf? (name : String) : Option Nat :=
  let digits := name.toList.dropWhile (· == '-')
  if !digits.isEmpty && digits.all Text.isDigit then some (Text.digitsValue digits)
  else
    let name := String.ofList digits
    (signals.find? fun (n, _) => name == n || name == "SIG" ++ n).map (·.2)

-- Only the script itself can be meant.
def kill (s : State) : List String → Reply
  | [name, "$$"] | ["-s", name, "$$"] =>
    match signalOf? name with
    | some n => ⟨s, [], [], some (.ends (.signalled n))⟩
    | none => quiet s 1
  | ["$$"] => ⟨s, [], [], some (.ends (.signalled sigTerm))⟩
  | _ => quiet s 1

def trap (s : State) : List String → Reply
  | "" :: names =>
    quiet { s with deaf := s.deaf || names.any fun n => signalOf? n == some sigTerm } 0
  | _ => quiet s 0

def setting? (word : String) : Option (String × String) :=
  let name := word.toList.takeWhile isNameChar
  match word.toList.dropWhile isNameChar with
  | '=' :: value =>
    if name.isEmpty || (name.head?.map Text.isDigit).getD true then none
    else some (String.ofList name, String.ofList value)
  | _ => none

def assign (s : State) (words : List String) : State :=
  { s with bindings := s.bindings ++ words.filterMap setting?, status := 0 }

def changeDirectory (s : State) (p : String) : Reply :=
  if s.disk.isDirectory (s.path p) then quiet { s with directory := s.path p } 0 else quiet s 2

def isTrue (s : State) : List String → Bool
  | ["-n", t] => !t.isEmpty
  | ["-z", t] => t.isEmpty
  | ["-e", p] => (s.disk.stat (s.path p)).toOption.isSome
  | ["-f", p] => (s.disk.read (s.path p)).toOption.isSome
  | ["-d", p] => s.disk.isDirectory (s.path p)
  | ["!", a, b] => !isTrue s [a, b]
  | [a, "=", b] => a == b
  | [a, "!=", b] => a != b
  | [t] => !t.isEmpty
  | _ => false

def test (s : State) (args : List String) : Reply := quiet s (if isTrue s args then 0 else 1)

def obey (s : State) (name : String) (args : List String) : Reply :=
  match name with
  | ":" | "export" | "set" | "wait" => quiet (assign s args) 0
  | "echo" => echo s args
  | "printf" => printf s args
  | "touch" => quiet (args.foldl State.touch s) 0
  | "mkdir" => quiet ((args.filter fun a => !a.startsWith "-").foldl State.makeDirectory s) 0
  | "test" => test s args
  | "[" => test s args.dropLast
  | "sleep" => sleep s (args.headD "")
  | "exit" => exit s args.head?
  | "kill" => kill s args
  | "trap" => trap s args
  | "cd" => changeDirectory s (args.headD ".")
  | "pwd" => ⟨{ s with status := 0 }, Utf8.encode (s.directory ++ "\n"), [], none⟩
  | "shift" => quiet { s with args := s.args.take 1 ++ s.args.drop 2 } 0
  | _ =>
    match Commands.known? name with
    | some run => ofChild s (run s.directory s.disk args)
    | none =>
      ⟨{ s with status := 127 }, [], Utf8.encode (name ++ ": not found\n"), none⟩

-- The script ends with the command that takes its place.
def replace (r : Reply) : Reply :=
  { r with course := r.course.or (some (.ends (.exited r.state.status))) }

def reply (s : State) (words : List String) : Reply :=
  let settings := words.takeWhile fun w => (setting? w).isSome
  match words.dropWhile fun w => (setting? w).isSome with
  | [] => quiet (assign s settings) 0
  | ["exec"] => quiet s 0
  | "exec" :: name :: args => replace (obey s name args)
  | name :: args => obey s name args

def runCommand (s : State) (c : Command) : State × Option Course :=
  let s := s.openFiles c
  let r := reply s (s.expand c.words)
  let targets := s.redirected c
  ((r.state.say (targets 1) r.output).say (targets 2) r.errors, r.course)

-- ### Steps

def isDue (s : State) : Link → Bool
  | .always => true
  | .ifDone => s.status == 0
  | .ifFailed => s.status != 0

-- Each command and each turn of a loop takes some fuel; when it is used up the script hangs.
def runSteps (fuel : Nat) (s : State) (steps : List Step) : State × Option Course :=
  match fuel, steps with
  | 0, _ => (s, some s.hang)
  | _ + 1, [] => (s, none)
  | fuel + 1, .command link c :: rest =>
    if isDue s link then
      match runCommand s c with
      | (s, none) => runSteps fuel s rest
      | (s, some course) => (s, some course)
    else runSteps fuel s rest
  | fuel + 1, .loop link whileDone test body :: rest =>
    if isDue s link then
      match runSteps fuel s test with
      | (s, some course) => (s, some course)
      | (s, none) =>
        if (s.status == 0) == whileDone then
          match runSteps fuel s body with
          | (s, some course) => (s, some course)
          | (s, none) => runSteps fuel s (.loop .always whileDone test body :: rest)
        else runSteps fuel { s with status := 0 } rest
    else runSteps fuel s rest
  | fuel + 1, .branch link test yes no :: rest =>
    if isDue s link then
      match runSteps fuel s test with
      | (s, some course) => (s, some course)
      | (s, none) =>
        match runSteps fuel s (if s.status == 0 then yes else no) with
        | (s, some course) => (s, some course)
        | (s, none) => runSteps fuel s rest
    else runSteps fuel s rest

def endurance : Nat := 400

def run (text : String) (start : State) : Child :=
  let (s, course) := runSteps endurance start (read text)
  ⟨s.output, s.errors, s.files, course.getD (.ends (.exited s.status))⟩

-- ### Launching

-- The command that a text names in its first line to be run by, with its arguments.
def runner? (text : String) : Option (List String) :=
  match text.toList with
  | '#' :: '!' :: rest =>
    some (((String.ofList (rest.takeWhile (· != '\n'))).splitOn " ").filter (!·.isEmpty))
  | _ => none

def isShell (name : String) : Bool :=
  ["sh", "bash", "dash"].any fun s => name == "/bin/" ++ s || name == "/usr/bin/" ++ s

def startAt (directory : String) (l : Launch) (d : Disk) : State where
  disk := d
  directory := directory
  args := l.command :: l.args
  bindings := l.environment
  output := []
  errors := []
  written := []
  status := 0
  slept := 0
  deaf := false

-- A file that says how it is run.
def launchScript (directory : String) (l : Launch) (d : Disk) (text : String) :
    Except IoError Child :=
  match runner? text with
  | none => .error .denied
  | some [] => .error .notFound
  | some (name :: args) =>
    if isShell name || name == "/usr/bin/env" && args.any fun a => isShell ("/bin/" ++ a) then
      .ok (run text (startAt directory l d))
    else
      match Commands.known? name with
      | some run => .ok (run directory d (args ++ l.command :: l.args))
      | none => .error .notFound

-- Commands of the system, and scripts on the disk.
def platform (current : String) : Platform := fun l d =>
  let directory := l.directory.getD current
  if l.command.toList.contains '/' && (Commands.known? l.command).isNone then
    match d.readText (Path.join directory l.command) with
    | .ok text => launchScript directory l d text
    | .error _ => Commands.platform current l d
  else Commands.platform current l d

end Spiderworks.Shell
