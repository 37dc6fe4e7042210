import Spiderworks.Text.Digits

namespace Spiderworks

inductive Number where
  | whole (n : Int)
  | double (x : Float)
  deriving DecidableEq

-- An object is the list of its entries in the order in which their keys first came; a key stands at
-- most once in what `insert` and `ofEntries` build.
inductive Json where
  | null
  | bool (b : Bool)
  | num (n : Number)
  | str (s : String)
  | arr (items : List Json)
  | obj (entries : List (String × Json))

instance : Inhabited Json := ⟨.null⟩

namespace Number

-- Whole numbers outside these bounds are not kept exactly.
def isExact (n : Int) : Bool := decide (-Int.pow 2 63 ≤ n) && decide (n < Int.pow 2 64)

def toFloat : Number → Float
  | .whole n =>
    if n < 0 then -(Float.ofScientific n.natAbs false 0)
    else Float.ofScientific n.natAbs false 0
  | .double x => x

-- A whole number that is not negative. A double is none, also when nothing stands behind its point.
def toNat? : Number → Option Nat
  | .whole n => if 0 ≤ n then some n.toNat else none
  | .double _ => none

end Number

namespace Entries

variable {α : Type}

def get? (entries : List (String × α)) (key : String) : Option α :=
  (entries.find? (·.1 == key)).map (·.2)

-- A known key keeps its place and takes the new value; a new one goes to the end.
def insert : List (String × α) → String → α → List (String × α)
  | [], key, value => [(key, value)]
  | (k, v) :: rest, key, value =>
    if k = key then (k, value) :: rest else (k, v) :: insert rest key value

def ofList (entries : List (String × α)) : List (String × α) :=
  entries.foldl (fun acc e => insert acc e.1 e.2) []

-- The last entry moves into the place of the one that is taken out.
def takeOut : List (String × α) → String → List (String × α)
  | [], _ => []
  | (k, v) :: rest, key =>
    if k = key then
      match rest.getLast? with
      | none => []
      | some last => last :: rest.dropLast
    else (k, v) :: takeOut rest key

end Entries

namespace Json

def get? : Json → String → Option Json
  | .obj entries, key => Entries.get? entries key
  | _, _ => none

def string? : Json → Option String
  | .str s => some s
  | _ => none

def ofNat (n : Nat) : Json := .num (.whole n)

def ofInt (n : Int) : Json := .num (.whole n)

end Json

end Spiderworks
