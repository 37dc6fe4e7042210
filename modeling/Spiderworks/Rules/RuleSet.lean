import Spiderworks.Json.Printer
import Spiderworks.Rules.Stored
import Spiderworks.Url.Parser

namespace Spiderworks

-- `headers` are sorted by name.
structure RuleSet where
  url : String
  headers : List (String × String)
  delay : Float
  timeout : Float
  retries : Nat
  rules : List Rule
  deriving DecidableEq

inductive RuleFault where
  | malformed (m : Misfit)
  | selectorType (name : String)
  | taking (name : String)
  | noAttribute

-- Each part of a configuration is checked on its own, and the first part that cannot be used
-- decides.
inductive RuleSetError where
  | noUrl
  | badUrl (url : String) (e : UrlError)
  | headers
  | seconds (key : String)
  | noTimeout
  | retries
  | notList
  | rule (index : Nat) (fault : RuleFault)

def RuleFault.message (index : Nat) (f : RuleFault) : String :=
  let rule := "rule " ++ String.ofList (Text.ofNat index)
  match f with
  | .malformed m => rule ++ " is malformed: " ++ m.message
  | .selectorType name => rule ++ " has unknown selectorType '" ++ name ++ "'"
  | .taking name => rule ++ " has unknown type '" ++ name ++ "'"
  | .noAttribute => rule ++ " extracts an attribute but names none"

def RuleSetError.message : RuleSetError → String
  | .noUrl => "ruleset has no target url"
  | .badUrl url e => "invalid url '" ++ url ++ "': " ++ e.message
  | .headers => "headers must be an object"
  | .seconds key => key ++ " must be a non-negative number of seconds"
  | .noTimeout => "timeout must be positive"
  | .retries => "retries must be a non-negative integer"
  | .notList => "rules must be a list"
  | .rule index fault => fault.message index

-- The dialect of a stored rule, CSS where none is named.
def StoredRule.dialect (r : StoredRule) : Except RuleFault Dialect :=
  match Text.asciiLowerString (r.selectorType.getD "") with
  | "" | "css" => .ok .css
  | "xpath" => .ok .xpath
  | other => .error (.selectorType other)

def StoredRule.takes (r : StoredRule) : Except RuleFault Taking :=
  match r.taking.getD "text" with
  | "" | "text" => .ok .text
  | "html" => .ok .html
  | "attr" =>
    match r.attributeName.getD "" with
    | "" => .error .noAttribute
    | name => .ok (.attribute name)
  | other => .error (.taking other)

def StoredRule.rule (r : StoredRule) : Except RuleFault Rule := do
  let dialect ← r.dialect
  let taking ← r.takes
  return ⟨r.field, ⟨dialect, r.selector⟩, taking⟩

namespace RuleSet

def defaultDelay : Float := 1.0

def defaultTimeout : Float := 30.0

def defaultRetries : Nat := 3

-- Seconds count in whole nanoseconds and stay below 2 ^ 64.
def isDuration (x : Float) : Bool := 0.0 ≤ x && x < 18446744073709551616.0

abbrev Config := List (String × Json)

-- A missing part and one that is null are the same.
def part (config : Config) (key : String) : Json := (Entries.get? config key).getD .null

def readUrl (config : Config) : Except RuleSetError String :=
  match Text.trimString ((part config "url").string?.getD "") with
  | "" => .error .noUrl
  | url =>
    match Url.parse url with
    | .ok _ => .ok url
    | .error e => .error (.badUrl url e)

def headerText : Json → String
  | .str s => s
  | v => Json.compact v

def readHeaders (config : Config) : Except RuleSetError (List (String × String)) :=
  match part config "headers" with
  | .null => .ok []
  | .obj entries =>
    .ok ((entries.map fun (k, v) => (k, headerText v)).mergeSort fun a b => a.1 ≤ b.1)
  | _ => .error .headers

def readSeconds (config : Config) (key : String) (fallback : Float) :
    Except RuleSetError Float :=
  match part config key with
  | .null => .ok fallback
  | .num n => if isDuration n.toFloat then .ok n.toFloat else .error (.seconds key)
  | _ => .error (.seconds key)

def readTimeout (config : Config) : Except RuleSetError Float := do
  let timeout ← readSeconds config "timeout" defaultTimeout
  if timeout == 0.0 then throw .noTimeout
  return timeout

def readRetries (config : Config) : Except RuleSetError Nat :=
  match part config "retries" with
  | .null => .ok defaultRetries
  | .num n =>
    match n.toNat? with
    | some k => if k < Nat.pow 2 32 then .ok k else .error .retries
    | none => .error .retries
  | _ => .error .retries

def readRule (v : Json) : Except RuleFault Rule :=
  match StoredRule.ofJson v with
  | .ok stored => stored.rule
  | .error m => .error (.malformed m)

def readRulesFrom (index : Nat) : List Json → Except RuleSetError (List Rule)
  | [] => .ok []
  | v :: rest =>
    match readRule v with
    | .error fault => .error (.rule index fault)
    | .ok r => (readRulesFrom (index + 1) rest).map (r :: ·)

def readRules (config : Config) : Except RuleSetError (List Rule) :=
  match part config "rules" with
  | .null => .ok []
  | .arr items => readRulesFrom 0 items
  | _ => .error .notList

def ofConfig (config : Config) : Except RuleSetError RuleSet := do
  let url ← readUrl config
  let headers ← readHeaders config
  let delay ← readSeconds config "delay" defaultDelay
  let timeout ← readTimeout config
  let retries ← readRetries config
  let rules ← readRules config
  return ⟨url, headers, delay, timeout, retries, rules⟩

def usesXPath (s : RuleSet) : Bool := s.rules.any Rule.usesXPath

end RuleSet

end Spiderworks
