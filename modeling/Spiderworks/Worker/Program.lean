import Spiderworks.Json.Printer
import Spiderworks.Json.Reader
import Spiderworks.Worker.Decode

namespace Spiderworks

-- Where a run delivers its results: as files, or as one JSON object on its output.
inductive RunMode where
  | files
  | direct
  deriving DecidableEq, Repr, Inhabited

def RunMode.name : RunMode → String
  | .files => "files"
  | .direct => "direct"

def RunMode.ofName? : String → Option RunMode
  | "files" => some .files
  | "direct" => some .direct
  | _ => none

namespace Worker

-- The identity of the run is read while the text is scanned, so a value there that does not fit is
-- noticed before anything that follows it; the rule set is looked at when the document has been
-- read.
structure Program where
  spider : Int
  execution : String
  mode : RunMode
  ruleSet : RuleSet
  deriving DecidableEq

-- Text that is no JSON, JSON that is cut short, or JSON of the wrong shape.
inductive ProgramError where
  | malformed
  | cutShort
  | shape
  deriving DecidableEq, Repr

-- ### Printing

def dialectJson : Dialect → Json
  | .css => .str "css"
  | .xpath => .str "xpath"

def takingJson : Taking → Json
  | .text => .str "text"
  | .html => .str "html"
  | .attribute name => .obj [("attribute", .str name)]

def ruleJson (r : Rule) : Json :=
  .obj [("field", .str r.field),
    ("selector",
      .obj [("kind", dialectJson r.selector.dialect), ("expression", .str r.selector.expression)]),
    ("extract", takingJson r.taking)]

def ruleSetEntries (s : RuleSet) : List (String × Json) :=
  [("url", .str s.url), ("headers", .obj (s.headers.map fun (k, v) => (k, .str v))),
    ("delay_secs", .num (.double s.delay)), ("timeout_secs", .num (.double s.timeout)),
    ("retries", .ofNat s.retries), ("rules", .arr (s.rules.map ruleJson))]

def Program.json (p : Program) : Json :=
  .obj ([("spider_id", .ofInt p.spider), ("execution_id", .str p.execution),
    ("mode", .str p.mode.name)] ++ ruleSetEntries p.ruleSet)

def Program.text (p : Program) : String := Json.pretty p.json

-- ### Reading

open Json (skipSpace readQuoted readWord readValue readMagnitude)

def ofReadError : Json.ReadError → ProgramError
  | .malformed => .malformed
  | .cutShort => .cutShort

def lift {α : Type} (r : Except Json.ReadError α) : Except ProgramError α :=
  match r with
  | .ok a => .ok a
  | .error e => .error (ofReadError e)

-- What is wrong with a value of another kind than the one that is wanted. A list or an object is
-- refused at its first character.
def otherKind (s : List Char) : ProgramError :=
  match skipSpace s with
  | [] => .cutShort
  | c :: rest =>
    if c = '[' ∨ c = '{' then .shape
    else match readValue 1 0 (c :: rest) with
      | .ok _ => .shape
      | .error e => ofReadError e

def isNumberStart (c : Char) : Bool := c == '-' || Text.isDigit c

def readSpider (s : List Char) : Except ProgramError (Int × List Char) :=
  match skipSpace s with
  | c :: rest =>
    if isNumberStart c then do
      let (v, rest) ← lift (readValue 1 0 (c :: rest))
      match v with
      | .num (.whole n) =>
        if -Int.pow 2 63 ≤ n ∧ n < Int.pow 2 63 then return (n, rest) else throw .shape
      | _ => throw .shape
    else .error (otherKind s)
  | [] => .error .cutShort

def readText (s : List Char) : Except ProgramError (String × List Char) :=
  match skipSpace s with
  | '"' :: rest => do
    let (text, rest) ← lift (readQuoted .plain [] rest)
    return (String.ofList text, rest)
  | _ => .error (otherKind s)

def named (name : String) : Except ProgramError RunMode :=
  match RunMode.ofName? name with
  | some m => .ok m
  | none => .error .shape

def readNull (s : List Char) : Except ProgramError (List Char) :=
  match skipSpace s with
  | 'n' :: rest => do
    let (_, rest) ← lift (readWord .null ['u', 'l', 'l'] rest)
    return rest
  | _ => .error (otherKind s)

-- A mode is its name, or an object with that key and null.
def readMode (s : List Char) : Except ProgramError (RunMode × List Char) :=
  match skipSpace s with
  | [] => .error .cutShort
  | '"' :: _ => do
    let (name, rest) ← readText s
    return (← named name, rest)
  | '{' :: rest => do
    let (name, rest) ← readText rest
    let mode ← named name
    match skipSpace rest with
    | ':' :: rest =>
      match skipSpace (← readNull rest) with
      | '}' :: rest => return (mode, rest)
      | [] => throw .cutShort
      | _ => throw .malformed
    | [] => throw .cutShort
    | _ => throw .malformed
  | _ => .error .malformed

-- What has been read of a document. `others` are the entries about the rule set.
structure Draft where
  spider : Option Int
  execution : Option String
  mode : Option RunMode
  others : List (String × Json)

def Draft.empty : Draft := ⟨none, none, none, []⟩

def Draft.program? (d : Draft) : Option Program := do
  return ⟨← d.spider, ← d.execution, ← d.mode, ← ruleSet? d.others⟩

-- The value of one key.
def Draft.readValue (d : Draft) (key : String) (s : List Char) :
    Except ProgramError (Draft × List Char) :=
  match key with
  | "spider_id" => do
    let (n, rest) ← readSpider s
    return ({ d with spider := some n }, rest)
  | "execution_id" => do
    let (text, rest) ← readText s
    return ({ d with execution := some text }, rest)
  | "mode" => do
    let (mode, rest) ← readMode s
    return ({ d with mode := some mode }, rest)
  | _ => do
    let (v, rest) ← lift (Json.readValue (Json.fuelFor s) (Json.depthLimit - 1) s)
    return ({ d with others := d.others ++ [(key, v)] }, rest)

def Draft.has (d : Draft) (key : String) : Bool :=
  match key with
  | "spider_id" => d.spider.isSome
  | "execution_id" => d.execution.isSome
  | "mode" => d.mode.isSome
  | _ => false

def readColon (s : List Char) : Except ProgramError (List Char) :=
  match skipSpace s with
  | ':' :: rest => .ok rest
  | [] => .error .cutShort
  | _ => .error .malformed

-- The entries from a quote on, up to the end of the object. Each takes more than one character.
def readEntries : Nat → Draft → List Char → Except ProgramError (Draft × List Char)
  | 0, _, _ => .error .malformed
  | fuel + 1, d, s =>
    match skipSpace s with
    | [] => .error .cutShort
    | '"' :: rest => do
      let (key, rest) ← lift (readQuoted .plain [] rest)
      let key := String.ofList key
      if d.has key then throw .shape
      let (d, rest) ← d.readValue key (← readColon rest)
      match skipSpace rest with
      | [] => throw .cutShort
      | '}' :: rest => return (d, rest)
      | ',' :: rest => readEntries fuel d rest
      | _ => throw .malformed
    | _ => .error .malformed

def readDraft (s : List Char) : Except ProgramError (Draft × List Char) :=
  match skipSpace s with
  | '{' :: rest =>
    match skipSpace rest with
    | '}' :: rest => .ok (Draft.empty, rest)
    | _ => readEntries s.length Draft.empty rest
  | _ => .error (otherKind s)

def Program.read (text : String) : Except ProgramError Program := do
  let (d, rest) ← readDraft text.toList
  match d.program? with
  | none => throw .shape
  | some p => if (skipSpace rest).isEmpty then return p else throw .malformed

end Worker

end Spiderworks
