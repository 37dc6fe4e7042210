import Spiderworks.Json.Printer
import Spiderworks.Rules.Basic
import Spiderworks.Text.Blank
import Spiderworks.Text.Quoted

namespace Spiderworks

-- An object with optional fields, or a list of their values in order.
structure StoredRule where
  field : String
  selector : String
  selectorType : Option String
  taking : Option String
  attributeName : Option String
  deriving DecidableEq, Repr

-- What is wrong with the shape of a stored rule.
inductive Misfit where
  | notText (found : Json)
  | notRule (found : Json)
  | tooLong (length : Nat)

-- A description of a value for a message.
def Json.described : Json → String
  | .null => "null"
  | .bool b => if b then "boolean `true`" else "boolean `false`"
  | .num (.whole n) => "integer `" ++ String.ofList (Text.ofInt n) ++ "`"
  | .num (.double x) => "floating point `" ++ String.ofList (Json.double x) ++ "`"
  | .str s => "string " ++ Text.shown s
  | .arr _ => "sequence"
  | .obj _ => "map"

def Misfit.message : Misfit → String
  | .notText found => "invalid type: " ++ found.described ++ ", expected a string"
  | .notRule found => "invalid type: " ++ found.described ++ ", expected struct StoredRule"
  | .tooLong n =>
    "invalid length " ++ String.ofList (Text.ofNat n) ++ ", expected fewer elements in array"

namespace StoredRule

def empty : StoredRule := ⟨"", "", none, none, none⟩

def text : Json → Except Misfit String
  | .str s => .ok s
  | v => .error (.notText v)

def optionalText : Json → Except Misfit (Option String)
  | .null => .ok none
  | .str s => .ok (some s)
  | v => .error (.notText v)

-- Sets one field; a key that is not known changes nothing.
def set (r : StoredRule) (key : String) (v : Json) : Except Misfit StoredRule :=
  match key with
  | "field" => (text v).map fun s => { r with field := s }
  | "selector" => (text v).map fun s => { r with selector := s }
  | "selectorType" => (optionalText v).map fun s => { r with selectorType := s }
  | "type" => (optionalText v).map fun s => { r with taking := s }
  | "attr" => (optionalText v).map fun s => { r with attributeName := s }
  | _ => .ok r

def keys : List String := ["field", "selector", "selectorType", "type", "attr"]

-- The first value that does not fit decides.
def ofEntries (r : StoredRule) : List (String × Json) → Except Misfit StoredRule
  | [] => .ok r
  | (key, v) :: rest => do ofEntries (← r.set key v) rest

def ofJson : Json → Except Misfit StoredRule
  | .obj entries => ofEntries empty entries
  | .arr items => do
    let r ← ofEntries empty (keys.zip items)
    if keys.length < items.length then throw (.tooLong items.length)
    return r
  | v => .error (.notRule v)

end StoredRule

end Spiderworks
