import Spiderworks.Toml.Token

namespace Spiderworks.Toml

def word (w : String) (v : Toml) (s : List Char) : Option (Toml × List Char) :=
  let w := w.toList
  if w.isPrefixOf s then some (v, s.drop w.length) else none

def isNumberStart (c : Char) : Bool := c == '+' || c == '-' || Text.isDigit c

-- `depth` more brackets and braces may be opened. Each call takes one unit of fuel, and two for
-- each character are always enough.
mutual
def readValue (fuel depth : Nat) (s : List Char) : Option (Toml × List Char) :=
  match fuel with
  | 0 => none
  | fuel + 1 =>
    match s with
    | [] => none
    | c :: rest =>
      if c = '"' ∨ c = '\'' then
        (readString s).map fun (text, s) => (.string (String.ofList text), s)
      else if c = '[' then
        match depth with
        | 0 => none
        | depth + 1 => readItems fuel depth [] (skipLines s.length rest)
      else if c = '{' then
        match depth with
        | 0 => none
        | depth + 1 =>
          match skipBlanks rest with
          | '}' :: s => some (.table .braces [], s)
          | s => readInline fuel depth (.table .braces []) s
      else if isNumberStart c then readNumber s
      else if c = 'i' ∨ c = 'n' then readFloat s
      else (word "true" (.boolean true) s).or (word "false" (.boolean false) s)

-- The items up to the closing bracket.
def readItems (fuel depth : Nat) (items : List Toml) (s : List Char) : Option (Toml × List Char) :=
  match fuel with
  | 0 => none
  | fuel + 1 =>
    match s with
    | ']' :: s => some (.array false items, s)
    | s => do
      let (v, s) ← readValue fuel depth s
      match skipLines s.length s with
      | ',' :: s => readItems fuel depth (items ++ [v]) (skipLines s.length s)
      | ']' :: s => return (.array false (items ++ [v]), s)
      | _ => none

-- The entries up to the closing brace, one at least.
def readInline (fuel depth : Nat) (table : Toml) (s : List Char) : Option (Toml × List Char) :=
  match fuel with
  | 0 => none
  | fuel + 1 => do
    let (path, key, v, s) ← readEntry fuel depth s
    let table ← insert path key v table
    match skipBlanks s with
    | ',' :: s => readInline fuel depth table s
    | '}' :: s => return (table, s)
    | _ => none

-- A key with its value. The last part of the key stands apart.
def readEntry (fuel depth : Nat) (s : List Char) :
    Option (List String × String × Toml × List Char) :=
  match fuel with
  | 0 => none
  | fuel + 1 => do
    let (parts, s) ← readKey s.length s
    let key ← parts.getLast?
    if depthLimit ≤ parts.length then none
    else
      match s with
      | '=' :: s =>
        let (v, s) ← readValue fuel depth (skipBlanks s)
        return (parts.dropLast, key, v, s)
      | _ => none
end

-- ### Documents

-- The path of the header that is in force, and the table of all entries so far.
structure Draft where
  header : List String
  root : Toml

def Draft.empty : Draft := ⟨[], .table .header []⟩

-- The key between the brackets of a header.
def readHeaderKey (s : List Char) : Option (List String × String × List Char) := do
  let (parts, s) ← readKey (s.length + 1) s
  let key ← parts.getLast?
  if depthLimit ≤ parts.length then none else return (parts.dropLast, key, s)

def readHeader (d : Draft) : List Char → Option (Draft × List Char)
  | '[' :: s => do
    let (path, key, s) ← readHeaderKey s
    match s with
    | ']' :: ']' :: s => return (⟨path ++ [key], ← openItem path key d.root⟩, s)
    | _ => none
  | s => do
    let (path, key, s) ← readHeaderKey s
    match s with
    | ']' :: s => return (⟨path ++ [key], ← openTable path key d.root⟩, s)
    | _ => none

-- One line that is not blank, up to its end.
def readLine (d : Draft) (s : List Char) : Option (Draft × List Char) :=
  match s with
  | '[' :: s => readHeader d s
  | s => do
    let (path, key, v, s) ← readEntry (2 * s.length + 2) (depthLimit - 1) s
    return ({ d with root := ← inCurrent d.header (insert path key v) d.root }, s)

def readLines (fuel : Nat) (d : Draft) (s : List Char) : Option Draft :=
  match fuel with
  | 0 => none
  | fuel + 1 =>
    match skipLines s.length s with
    | [] => some d
    | s => do
      let (d, s) ← readLine d s
      readLines fuel d (← lineEnd? s)

-- A byte order mark in front does not count.
def dropMark : List Char → List Char
  | '\ufeff' :: s => s
  | s => s

def read? (text : String) : Option Entries :=
  let s := dropMark text.toList
  match readLines (s.length + 1) Draft.empty s with
  | some ⟨_, .table _ entries⟩ => some entries
  | _ => none

end Spiderworks.Toml
