import Spiderworks.Disk.Basic
import Spiderworks.Rules.RuleSet
import Spiderworks.Url.Parser
import Spiderworks.Worker.Program

namespace Spiderworks.Worker

-- ### Headers

def isNameChar (c : Char) : Bool :=
  c.isAlphanum || "!#$%&'*+-.^_\x60|~\"".toList.contains c

def isHeaderName (name : String) : Bool := !name.isEmpty && name.toList.all isNameChar

-- Control characters stand in no value, but for the tab.
def isValueChar (c : Char) : Bool := c == '\t' || (0x20 ≤ c.toNat && c.toNat != 0x7f)

def isHeader (h : String × String) : Bool := isHeaderName h.1 && h.2.toList.all isValueChar

-- ### Errors

inductive WorkerError where
  | io (e : IoError)
  | program (e : ProgramError)
  | header (name : String)
  | fetch (url : String) (attempts : Nat) (reason : String)
  deriving DecidableEq, Repr

def ProgramError.words : ProgramError → String
  | .malformed => "the text is no JSON"
  | .cutShort => "the text ends too early"
  | .shape => "the document is not of the right shape"

def WorkerError.message : WorkerError → String
  | .io e => "IO error: " ++ e.message
  | .program e => "Invalid worker program: " ++ e.words
  | .header name => "Invalid request header: " ++ name
  | .fetch url attempts reason =>
    "Request to " ++ url ++ " failed after " ++ String.ofList (Text.ofNat attempts) ++
      " attempts: " ++ reason

-- Either something went wrong in a way that can be told, or the worker met a time that is no span
-- of time and broke off without a word.
inductive Trouble where
  | told (e : WorkerError)
  | brokenOff
  deriving DecidableEq, Repr

-- ### Requests

-- What the network answers to the request for a page, by the number of the attempt.
abbrev Network := String → Nat → Except String String

-- Why a text cannot be asked for at all.
def urlFault? (url : String) : Option String :=
  match Url.parse url with
  | .ok u =>
    if u.scheme == "http" || u.scheme == "https" then none
    else some ("builder error for url (" ++ url ++ "): URL scheme is not allowed")
  | .error e => some ("builder error: " ++ e.message)

def fetchOnce (net : Network) (url : String) (attempt : Nat) : Except String String :=
  match urlFault? url with
  | none => net url attempt
  | some reason => .error reason

def checkHeaders (s : RuleSet) : Except Trouble Unit :=
  match s.headers.find? fun h => !isHeader h with
  | some (name, _) => .error (.told (.header name))
  | none => .ok ()

def checkSpan (seconds : Float) : Except Trouble Unit :=
  if RuleSet.isDuration seconds then .ok () else .error .brokenOff

-- What has to be right before the first request.
def prepare (s : RuleSet) : Except Trouble Unit := do
  checkHeaders s
  checkSpan s.timeout

-- What is done to get a page, and how it ended.
inductive FetchEvent where
  | asked (attempt : Nat)
  | waited (seconds : Float)
  deriving DecidableEq

structure Fetch where
  events : List FetchEvent
  ending : Except Trouble String

-- One attempt after the other; the last one may be the one with the number `attempts`.
def fetchFrom (net : Network) (s : RuleSet) (attempts attempt : Nat) : Fetch :=
  match fetchOnce net s.url attempt with
  | .ok page => ⟨[.asked attempt], .ok page⟩
  | .error reason =>
    if attempt < attempts then
      if RuleSet.isDuration s.delay then
        let rest := fetchFrom net s attempts (attempt + 1)
        ⟨.asked attempt :: .waited s.delay :: rest.events, rest.ending⟩
      else ⟨[.asked attempt], .error .brokenOff⟩
    else ⟨[.asked attempt], .error (.told (.fetch s.url attempt reason))⟩
termination_by attempts - attempt

-- Attempts are counted in 32 bits.
def attemptsOf (s : RuleSet) : Nat := (s.retries + 1) % Nat.pow 2 32

def fetchPage (net : Network) (s : RuleSet) : Fetch := fetchFrom net s (attemptsOf s) 1

end Spiderworks.Worker
