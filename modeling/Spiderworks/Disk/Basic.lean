import Spiderworks.Disk.Path
import Spiderworks.Text.Digits
import Spiderworks.Text.Utf8

namespace Spiderworks

inductive IoError where
  | notFound
  | notDirectory
  | isDirectory
  | exists
  | denied
  | tooManyLinks
  | nameTooLong
  | nulInPath
  | nulInLaunch
  | notText
  deriving DecidableEq, Repr

def IoError.message : IoError → String
  | .notFound => "No such file or directory (os error 2)"
  | .notDirectory => "Not a directory (os error 20)"
  | .isDirectory => "Is a directory (os error 21)"
  | .exists => "File exists (os error 17)"
  | .denied => "Permission denied (os error 13)"
  | .tooManyLinks => "Too many levels of symbolic links (os error 40)"
  | .nameTooLong => "File name too long (os error 36)"
  | .nulInPath => "file name contained an unexpected NUL byte"
  | .nulInLaunch => "nul byte found in provided data"
  | .notText => "stream did not contain valid UTF-8"

inductive Node where
  | directory
  | file (bytes : List UInt8)
  | link (target : String)
  deriving DecidableEq, Repr

-- The root is a directory and is not listed.
structure Disk where
  entries : List (List String × Node)
  deriving DecidableEq, Repr

namespace Disk

def empty : Disk := ⟨[]⟩

instance : Inhabited Disk := ⟨empty⟩

def node? (d : Disk) (place : List String) : Option Node :=
  if place.isEmpty then some .directory
  else (d.entries.find? (·.1 == place)).map (·.2)

-- A walk follows at most so many links.
def maxLinks : Nat := 40

-- A name has at most so many bytes.
def maxName : Nat := 255

-- Where the parts of a path lead, as far as a link that has to be followed: from there on, `jump`
-- tells. The place has no links and no steps upwards in it, and all but its last part is there. A
-- link at the end is followed only if `follow` says so.
def stroll (d : Disk) (follow : Bool)
    (jump : List String → List String → Except IoError (List String)) (here : List String) :
    List String → Except IoError (List String)
  | [] => .ok here
  | p :: rest =>
    if p = ".." then stroll d follow jump here.dropLast rest
    else if maxName < p.utf8ByteSize then .error .nameTooLong
    else
      let place := here ++ [p]
      match d.node? place with
      | none => if rest.isEmpty then .ok place else .error .notFound
      | some .directory => stroll d follow jump place rest
      | some (.file _) => if rest.isEmpty then .ok place else .error .notDirectory
      | some (.link target) =>
        if rest.isEmpty && !follow then .ok place
        else jump (if Path.isAbsolute target then [] else here) (Path.parts target ++ rest)

def locate (d : Disk) (follow : Bool) :
    Nat → List String → List String → Except IoError (List String)
  | 0 => d.stroll follow fun _ _ => .error .tooManyLinks
  | links + 1 => d.stroll follow (d.locate follow links)

def walk (d : Disk) (follow : Bool) (parts : List String) : Except IoError (List String) :=
  if parts.any (·.toList.contains '\x00') then .error .nulInPath
  else d.locate follow maxLinks [] parts

def place (d : Disk) (path : String) : Except IoError (List String) :=
  d.walk true (Path.parts path)

-- What a path leads to.
def stat (d : Disk) (path : String) : Except IoError Node := do
  match d.node? (← d.place path) with
  | some n => return n
  | none => throw .notFound

def isDirectory (d : Disk) (path : String) : Bool :=
  match d.stat path with
  | .ok .directory => true
  | _ => false

-- The path of the place that a path leads to.
def canonical (d : Disk) (path : String) : Except IoError String := do
  let _ ← d.stat path
  return Path.ofParts (← d.place path)

def read (d : Disk) (path : String) : Except IoError (List UInt8) := do
  match ← d.stat path with
  | .file bytes => return bytes
  | _ => throw .isDirectory

def readText (d : Disk) (path : String) : Except IoError String := do
  match Utf8.decode? (← d.read path) with
  | some s => return s
  | none => throw .notText

-- ### Changes

def set (d : Disk) (place : List String) (n : Node) : Disk :=
  ⟨d.entries.filter (·.1 != place) ++ [(place, n)]⟩

-- A new file, or new contents of an old one.
def write (d : Disk) (path : String) (bytes : List UInt8) : Except IoError Disk := do
  let place ← d.place path
  match d.node? place with
  | some .directory => throw .isDirectory
  | _ => return d.set place (.file bytes)

def makeDirectory (d : Disk) (parts : List String) : Except IoError Disk := do
  let place ← d.walk false parts
  match d.node? place with
  | some _ => throw .exists
  | none => return d.set place .directory

def isDirectoryAt (d : Disk) (parts : List String) : Bool :=
  d.isDirectory (Path.ofParts parts)

def makeOrFind (d : Disk) (parts : List String) : Except IoError Disk :=
  match d.makeDirectory parts with
  | .ok d => .ok d
  | .error e => if d.isDirectoryAt parts then .ok d else .error e

-- A directory, after those above it if one of them is missing. One that is there already is fine.
-- The parts come last one first.
def makeAll (d : Disk) : List String → Except IoError Disk
  | [] => .ok d
  | p :: above =>
    let parts := (p :: above).reverse
    match d.makeDirectory parts with
    | .error .notFound => do (← d.makeAll above).makeOrFind parts
    | _ => d.makeOrFind parts

def makeDirectories (d : Disk) (path : String) : Except IoError Disk :=
  d.makeAll (Path.parts path).reverse

-- A file together with the directories that it needs.
def writeWithParents (d : Disk) (path : String) (bytes : List UInt8) : Except IoError Disk := do
  let d ← d.makeAll (Path.parts path).dropLast.reverse
  d.write path bytes

def removeFile (d : Disk) (path : String) : Except IoError Disk := do
  let place ← d.walk false (Path.parts path)
  match d.node? place with
  | none => throw .notFound
  | some .directory => throw .isDirectory
  | some _ => return ⟨d.entries.filter (·.1 != place)⟩

-- Takes away what stands at a path, with everything below it.
def removeAll (d : Disk) (path : String) : Disk :=
  let place := Path.parts path
  ⟨d.entries.filter fun e => !place.isPrefixOf e.1⟩

def link (d : Disk) (path target : String) : Disk := d.set (Path.parts path) (.link target)

-- ### Looking around

-- How many entries a directory has.
def count (d : Disk) (path : String) : Nat :=
  let place := Path.parts path
  d.entries.countP fun e => e.1.length == place.length + 1 && place.isPrefixOf e.1

end Disk

end Spiderworks
