import Spiderworks.Process.Child

namespace Spiderworks.Commands

def saying (output errors : String) (code : Nat) : Child :=
  ⟨Utf8.encode output, Utf8.encode errors, [], .ends (.exited code)⟩

-- ### Saying the arguments

structure EchoStyle where
  newline : Bool
  escapes : Bool
  deriving DecidableEq, Repr

def isEchoOption (arg : List Char) : Bool :=
  match arg with
  | '-' :: letters => !letters.isEmpty && letters.all fun c => c == 'n' || c == 'e' || c == 'E'
  | _ => false

def EchoStyle.apply (s : EchoStyle) (c : Char) : EchoStyle :=
  if c = 'n' then { s with newline := false }
  else if c = 'e' then { s with escapes := true }
  else if c = 'E' then { s with escapes := false }
  else s

def echoStyle (s : EchoStyle) : List String → EchoStyle × List String
  | [] => (s, [])
  | a :: rest =>
    if isEchoOption a.toList then echoStyle (a.toList.foldl EchoStyle.apply s) rest
    else (s, a :: rest)

def escapeOf? (c : Char) : Option Char :=
  [('a', '\x07'), ('b', '\x08'), ('e', '\x1b'), ('f', '\x0c'), ('n', '\n'), ('r', '\r'),
    ('t', '\t'), ('v', '\x0b'), ('\\', '\\')].lookup c

-- `none` stands for the end of all output.
def unescape : List Char → List (Option Char)
  | '\\' :: 'c' :: _ => [none]
  | '\\' :: c :: rest =>
    match escapeOf? c with
    | some d => some d :: unescape rest
    | none => some '\\' :: some c :: unescape rest
  | c :: rest => some c :: unescape rest
  | [] => []

def styledText (style : EchoStyle) (args : List String) : String :=
  let text := (String.intercalate " " args).toList
  let marked := (if style.escapes then unescape text else text.map some) ++
    (if style.newline then [some '\n'] else [])
  String.ofList ((marked.takeWhile (·.isSome)).filterMap id)

def echoText (args : List String) : String :=
  let (style, args) := echoStyle ⟨true, false⟩ args
  styledText style args

-- ### Saying files

def catOption? (args : List String) : Option String :=
  (args.takeWhile (· != "--")).find? fun a => a.toList.head? == some '-' && a != "-"

def catRefusal (option : String) : String :=
  let shown := match option.toList with
    | '-' :: '-' :: _ => "unrecognized option '" ++ option ++ "'"
    | _ :: c :: _ => "invalid option -- '" ++ String.singleton c ++ "'"
    | _ => option
  "cat: " ++ shown ++ "\nTry 'cat --help' for more information.\n"

-- There is nothing on the standard input.
def catFile (directory : String) (d : Disk) (c : Child) (path : String) : Child :=
  if path = "-" then c
  else
    match d.read (Path.join directory path) with
    | .ok bytes => { c with output := c.output ++ bytes }
    | .error e =>
      let reason := (e.message.splitOn " (os error").headD ""
      { c with
        errors := c.errors ++ Utf8.encode ("cat: " ++ path ++ ": " ++ reason ++ "\n")
        course := .ends (.exited 1) }

def cat (directory : String) (d : Disk) (args : List String) : Child :=
  match catOption? args with
  | some option => saying "" (catRefusal option) 1
  | none => (args.filter (· != "--")).foldl (catFile directory d) (saying "" "" 0)

-- ### Launching

-- A command by its bare name or where the system keeps it. It is run in a directory.
def known? (command : String) : Option (String → Disk → List String → Child) :=
  let name := ((command.dropPrefix? "/usr/bin/").or (command.dropPrefix? "/bin/")).map (·.toString)
  match name.getD command with
  | "true" => some fun _ _ _ => saying "" "" 0
  | "false" => some fun _ _ _ => saying "" "" 1
  | "echo" => some fun _ _ args => saying (echoText args) "" 0
  | "cat" => some cat
  | _ => none

-- A bare name that is not known is not found. A path leads to a file that cannot be run, or
-- nowhere. Without a directory of its own a process runs in the current one.
def platform (current : String) : Platform := fun l d =>
  let directory := l.directory.getD current
  match known? l.command with
  | some run => .ok (run directory d l.args)
  | none =>
    if l.command.toList.contains '/' then
      match d.stat (Path.join directory l.command) with
      | .error e => .error e
      | .ok _ => .error .denied
    else .error .notFound

end Spiderworks.Commands
