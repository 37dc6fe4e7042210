import Spiderworks.CommandLine.Flag
import Spiderworks.Text.Digits

namespace Spiderworks

inductive Command where
  | add (name : String) (code config description : Option String)
  | list
  | run (spider : Int)
  | call (spider : Int) (code : Option String)
  | logs (spider : Int) (limit : Nat) (execution : Option String)
  | files (spider : Int)
  | worker (program : String)
  deriving DecidableEq, Repr

-- A command and the configuration file that it is given with. Some flags go with every command and
-- may stand before it or after it; what stands after it counts more.
structure Order where
  config : Option String
  command : Command
  deriving DecidableEq, Repr

namespace CommandLine

-- ### Numbers

def wholeOf? (s : String) : Option Int :=
  let (negative, digits) := match s.toList with
    | '-' :: ds => (true, ds)
    | '+' :: ds => (false, ds)
    | ds => (false, ds)
  if !digits.isEmpty && digits.all Text.isDigit then
    let n : Int := Text.digitsValue digits
    some (if negative then -n else n)
  else none

def spiderOf? (s : String) : Option Int :=
  (wholeOf? s).filter fun n => -Int.pow 2 63 ≤ n && n < Int.pow 2 63

def limitOf? (s : String) : Option Nat :=
  ((wholeOf? s).filter fun n => 0 ≤ n && n < Int.pow 2 32).map (·.toNat)

-- ### Flags

def commonFlags : List Flag :=
  [⟨some 'c', "config", .path⟩, ⟨some 'v', "verbose", .often⟩, ⟨some 'q', "quiet", .once⟩,
    ⟨some 'h', "help", .help⟩]

def versionFlag : Flag := ⟨some 'V', "version", .version⟩

-- The flags of a command, and how many words it has.
def formOf? : String → Option (List Flag × Nat)
  | "add" =>
    some ([⟨none, "code", .path⟩, ⟨none, "spider-config", .path⟩, ⟨none, "description", .value⟩], 1)
  | "list" => some ([], 0)
  | "run" => some ([], 1)
  | "call" => some ([⟨none, "code", .path⟩], 1)
  | "logs" => some ([⟨some 'n', "limit", .value⟩, ⟨none, "execution", .value⟩], 1)
  | "files" => some ([], 1)
  | "worker" => some ([⟨none, "ruleset", .path⟩], 0)
  | _ => none

def usualLimit : Nat := 50

-- The command of this name, once its flags and words are read.
def commandOf? (name : String) (f : Found) : Option Command := do
  let spider? := f.words.head?.bind spiderOf?
  match name with
  | "add" =>
    return .add (← f.words.head?) (f.value? "code") (f.value? "spider-config")
      (f.value? "description")
  | "list" => return .list
  | "run" => return .run (← spider?)
  | "call" => return .call (← spider?) (f.value? "code")
  | "logs" =>
    let limit ← match f.value? "limit" with
      | some text => limitOf? text
      | none => some usualLimit
    return .logs (← spider?) limit (f.value? "execution")
  | "files" => return .files (← spider?)
  | "worker" => return .worker (← f.value? "ruleset")
  | _ => none

-- Nobody asks for more and for less at once.
def isAtOdds (f : Found) : Bool := f.has "verbose" && f.has "quiet"

-- ### Orders

def readCommand (above : Found) (name : String) (args : List String) : Except Halt Order := do
  match formOf? name with
  | none => throw .misuse
  | some (flags, words) =>
    let (found, _) ← read (flags ++ commonFlags) (fun _ => true) .empty none args
    if found.words.length != words || isAtOdds found || isAtOdds above then throw .misuse
    match commandOf? name found with
    | none => throw .misuse
    | some command => return ⟨(found.value? "config").or (above.value? "config"), command⟩

def readOrder (args : List String) : Except Halt Order := do
  let (above, rest) ← read (versionFlag :: commonFlags) (fun _ => false) .empty none args
  match rest with
  | "help" :: _ => throw .help
  | name :: args => readCommand above name args
  | [] => throw .misuse

end CommandLine

end Spiderworks
