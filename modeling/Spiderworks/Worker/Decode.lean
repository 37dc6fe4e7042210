import Spiderworks.Json.Basic
import Spiderworks.Rules.RuleSet

namespace Spiderworks.Worker

-- The value of a key that stands exactly once. Objects come with every entry that is written, so a
-- key that is read twice can be refused.
def only? (entries : List (String × Json)) (key : String) : Option Json :=
  match entries.filter (·.1 == key) with
  | [(_, v)] => some v
  | _ => none

def isAbsent (entries : List (String × Json)) (key : String) : Bool :=
  !entries.any (·.1 == key)

def float? : Json → Option Float
  | .num n => some n.toFloat
  | _ => none

def count? : Json → Option Nat
  | .num n =>
    match n.toNat? with
    | some k => if k < Nat.pow 2 32 then some k else none
    | none => none
  | _ => none

-- A choice is its name, or an object with the name as its one key and what belongs to it.
def choice? : Json → Option (String × Option Json)
  | .str name => some (name, none)
  | .obj [(name, v)] => some (name, some v)
  | _ => none

def isNothing : Option Json → Bool
  | none | some .null | some (.obj []) => true
  | _ => false

def dialect? (v : Json) : Option Dialect :=
  match choice? v with
  | some ("css", v) => if isNothing v then some .css else none
  | some ("xpath", v) => if isNothing v then some .xpath else none
  | _ => none

def taking? (v : Json) : Option Taking :=
  match choice? v with
  | some ("text", v) => if isNothing v then some .text else none
  | some ("html", v) => if isNothing v then some .html else none
  | some ("attribute", some (.str name)) => some (.attribute name)
  | _ => none

-- The values of the named fields, from an object or from a list with just these values.
def struct? (keys : List String) : Json → Option (List Json)
  | .arr items => if items.length = keys.length then some items else none
  | .obj entries => keys.mapM (only? entries)
  | _ => none

def selector? (v : Json) : Option Selector :=
  match struct? ["kind", "expression"] v with
  | some [kind, .str expression] => (dialect? kind).map (⟨·, expression⟩)
  | _ => none

def rule? (v : Json) : Option Rule :=
  match struct? ["field", "selector", "extract"] v with
  | some [.str field, selector, taking] => do return ⟨field, ← selector? selector, ← taking? taking⟩
  | _ => none

def header? : String × Json → Option (String × String)
  | (name, .str value) => some (name, value)
  | _ => none

-- A header that comes again takes the place of the earlier one.
def headers? : Json → Option (List (String × String))
  | .obj entries =>
    (entries.mapM header?).map fun hs => (Entries.ofList hs).mergeSort fun a b => a.1 ≤ b.1
  | _ => none

def rules? : Json → Option (List Rule)
  | .arr items => items.mapM rule?
  | _ => none

def ruleSet? (entries : List (String × Json)) : Option RuleSet := do
  let url ← (← only? entries "url").string?
  let headers ← if isAbsent entries "headers" then some [] else headers? (← only? entries "headers")
  let delay ← float? (← only? entries "delay_secs")
  let timeout ← float? (← only? entries "timeout_secs")
  let retries ← count? (← only? entries "retries")
  let rules ← rules? (← only? entries "rules")
  return ⟨url, headers, delay, timeout, retries, rules⟩

end Spiderworks.Worker
