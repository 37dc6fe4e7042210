namespace Spiderworks

-- How a table came about decides what may still be added to it: it is written between braces, has
-- its own header, is implied by the header of a table inside it, or by a dotted key.
inductive TableOrigin where
  | braces
  | header
  | implied
  | dotted
  deriving DecidableEq, Repr

-- `tables` tells a list of tables, each with its own header, from a list between brackets.
inductive Toml where
  | string (s : String)
  | integer (n : Int)
  | float
  | boolean (b : Bool)
  | moment
  | array (tables : Bool) (items : List Toml)
  | table (origin : TableOrigin) (entries : List (String × Toml))

namespace Toml

instance : Inhabited Toml := ⟨.moment⟩

abbrev Entries := List (String × Toml)

def lookup? (entries : Entries) (key : String) : Option Toml :=
  (entries.find? (·.1 == key)).map (·.2)

-- Puts a value in place of an old one, or at the end.
def put : Entries → String → Toml → Entries
  | [], key, v => [(key, v)]
  | (k, old) :: rest, key, v => if k = key then (k, v) :: rest else (k, old) :: put rest key v

-- A table that a longer path leads through. Dotted keys may only lead through tables without a
-- header of their own.
def mayPass (dotted : Bool) : TableOrigin → Bool
  | .braces => false
  | .header => !dotted
  | .implied | .dotted => true

-- Changes the last item of a list.
def atLast (f : Toml → Option Toml) : List Toml → Option (List Toml)
  | [] => none
  | [v] => (f v).map fun w => [w]
  | v :: w :: rest => (atLast f (w :: rest)).map (v :: ·)

-- Changes the table that a path leads to; tables that are missing on the way come about. The path
-- goes on in the last table of a list of tables.
def descend (dotted : Bool) (path : List String) (f : TableOrigin → Entries → Option Toml) :
    Toml → Option Toml
  | .table origin entries =>
    match path with
    | [] => f origin entries
    | key :: rest =>
      let fresh : Toml := .table (if dotted then .dotted else .implied) []
      let next : Option Toml :=
        match lookup? entries key with
        | none => descend dotted rest f fresh
        | some (.table o es) =>
          if mayPass dotted o then descend dotted rest f (.table o es) else none
        | some (.array true items) =>
          (atLast (descend dotted rest f) items).map (.array true)
        | some _ => none
      next.map fun v => .table origin (put entries key v)
  | _ => none
termination_by path.length

-- A new entry. A dotted key ends in a table that dotted keys have made, and a plain key does not.
def insert (path : List String) (key : String) (v : Toml) : Toml → Option Toml :=
  descend true path fun origin entries =>
    if (origin == .dotted) == path.isEmpty then none
    else if (lookup? entries key).isSome then none
    else some (.table origin (entries ++ [(key, v)]))

-- The table of a header. It must be new, or implied by earlier headers.
def openTable (path : List String) (key : String) : Toml → Option Toml :=
  descend false path fun origin entries =>
    match lookup? entries key with
    | none => some (.table origin (entries ++ [(key, .table .header [])]))
    | some (.table .implied es) => some (.table origin (put entries key (.table .header es)))
    | some _ => none

-- One more table in a list of tables.
def openItem (path : List String) (key : String) : Toml → Option Toml :=
  descend false path fun origin entries =>
    match lookup? entries key with
    | none => some (.table origin (entries ++ [(key, .array true [.table .header []])]))
    | some (.array true items) =>
      some (.table origin (put entries key (.array true (items ++ [.table .header []]))))
    | some _ => none

-- Changes the table that a header has opened.
def inCurrent (header : List String) (f : Toml → Option Toml) : Toml → Option Toml :=
  descend false header fun origin entries => f (.table origin entries)

end Toml

end Spiderworks
