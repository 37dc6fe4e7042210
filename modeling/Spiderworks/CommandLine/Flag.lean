namespace Spiderworks.CommandLine

-- A flag may be given once or as often as one likes, or it has a value, which a path flag does not
-- leave empty. The last two end the reading.
inductive FlagKind where
  | once
  | often
  | value
  | path
  | help
  | version
  deriving DecidableEq, Repr

-- A flag has a long name and perhaps a letter, and its value is joined to it or comes next. Letters
-- may be joined to one another, and what follows a double dash is words only.
structure Flag where
  letter : Option Char
  name : String
  kind : FlagKind
  deriving DecidableEq, Repr

def Flag.takesValue (f : Flag) : Bool := f.kind == .value || f.kind == .path

-- Why the reading has ended early.
inductive Halt where
  | misuse
  | help
  | version
  deriving DecidableEq, Repr

-- The flags that were found, with their values, and the words.
structure Found where
  flags : List (String × String)
  words : List String
  deriving DecidableEq, Repr

namespace Found

def empty : Found := ⟨[], []⟩

def has (f : Found) (name : String) : Bool := f.flags.any (·.1 == name)

def value? (f : Found) (name : String) : Option String := f.flags.lookup name

def add (found : Found) (f : Flag) (value : String) : Except Halt Found :=
  match f.kind with
  | .help => .error .help
  | .version => .error .version
  | .often => .ok { found with flags := found.flags ++ [(f.name, value)] }
  | _ =>
    if found.has f.name || (f.kind == .path && value.isEmpty) then .error .misuse
    else .ok { found with flags := found.flags ++ [(f.name, value)] }

def addWord (found : Found) (word : String) : Found := { found with words := found.words ++ [word] }

end Found

-- ### Reading

-- What has been found, and the flag that still has to get its value.
abbrev Progress := Except Halt (Found × Option Flag)

def nameAndValue (body : List Char) : String × Option String :=
  let name := body.takeWhile (· != '=')
  let rest := body.dropWhile (· != '=')
  (String.ofList name, if rest.isEmpty then none else some (String.ofList (rest.drop 1)))

def readLong (flags : List Flag) (found : Found) (body : List Char) : Progress :=
  let (name, value) := nameAndValue body
  match flags.find? (·.name == name), value with
  | none, _ => .error .misuse
  | some f, some v => if f.takesValue then (found.add f v).map (·, none) else .error .misuse
  | some f, none => if f.takesValue then .ok (found, some f) else (found.add f "").map (·, none)

-- An equals sign between a letter and its value is no part of the value.
def joinedValue (rest : List Char) : String :=
  match rest with
  | '=' :: value => String.ofList value
  | value => String.ofList value

def readLetters (flags : List Flag) (found : Found) : List Char → Progress
  | [] => .ok (found, none)
  | c :: rest =>
    match flags.find? (·.letter == some c) with
    | none => .error .misuse
    | some f =>
      if f.takesValue then
        if rest.isEmpty then .ok (found, some f)
        else (found.add f (joinedValue rest)).map (·, none)
      else
        match found.add f "" with
        | .ok found => readLetters flags found rest
        | .error h => .error h

-- A single dash is a word.
def isWord (arg : String) : Bool := arg.toList.head? != some '-' || arg == "-"

def readFlag (flags : List Flag) (found : Found) (arg : String) : Progress :=
  match arg.toList with
  | '-' :: '-' :: body => readLong flags found body
  | '-' :: letters => readLetters flags found letters
  | _ => .error .misuse

-- Reads on while `onward` says so of what was found; answers the arguments that are left.
def read (flags : List Flag) (onward : Found → Bool) (found : Found) (pending : Option Flag) :
    List String → Except Halt (Found × List String)
  | [] => if pending.isSome then .error .misuse else .ok (found, [])
  | arg :: rest =>
    match pending with
    | some f =>
      if isWord arg then
        match found.add f arg with
        | .ok found => read flags onward found none rest
        | .error h => .error h
      else .error .misuse
    | none =>
      if arg == "--" then .ok (rest.foldl Found.addWord found, [])
      else if isWord arg then
        if onward found then read flags onward (found.addWord arg) none rest
        else .ok (found, arg :: rest)
      else
        match readFlag flags found arg with
        | .ok (found, pending) => read flags onward found pending rest
        | .error h => .error h

end Spiderworks.CommandLine
