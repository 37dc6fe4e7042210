import Spiderworks.Extract.Select
import Spiderworks.Json.Basic

namespace Spiderworks.Extract

open Spiderworks.Page (Spot)

-- Fields in the order of their first rule, each with the value of its last.
abbrev Record := List (String × String)

-- The value of a field, empty where the selector is wrong or matches nothing.
def valueOf (source : Source) (scope : Scope) (r : Rule) : String :=
  match select source r.selector scope with
  | .ok (m :: _) => m.take r.taking
  | _ => ""

def record (source : Source) (rules : List Rule) (scope : Scope) : Record :=
  (rules.filter Rule.isUsable).foldl
    (fun rec r => Entries.insert rec r.field (valueOf source scope r)) []

def items (source : Source) (first : Rule) : Except SelectError (List Spot) :=
  (select source first.selector .page).map (·.filterMap Match.spot?)

-- The elements that the selector of the first rule matches are the items of the page, and each of
-- them gives a record; without items the whole page gives one.
def applyRules (source : Source) (rules : List Rule) : List Record :=
  match rules with
  | [] => []
  | first :: _ =>
    match items source first with
    | .error _ => []
    | .ok [] => [record source rules .page].filter (!·.isEmpty)
    | .ok spots => (spots.map fun s => record source rules (.element s)).filter (!·.isEmpty)

def records (page : Page) (rules : List Rule) : List Record :=
  applyRules (Source.ofPage page (rules.any Rule.usesXPath)) rules

end Spiderworks.Extract
