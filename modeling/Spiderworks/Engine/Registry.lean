import Spiderworks.Spider.Status

namespace Spiderworks

-- `cancel` asks a run to stop, `finished` says that its work is done, and `released` that its
-- registration is gone.
structure Signals where
  cancel : Bool
  finished : Bool
  released : Bool
  deriving DecidableEq, Repr, Inhabited

def Signals.fresh : Signals := ⟨false, false, false⟩

structure Registration where
  spider : Int
  execution : String
  phase : Phase
  pid : Option Nat
  number : Nat
  deriving DecidableEq, Repr

-- A granted request to stop. The first one of a run is the one that settles it.
structure StopTicket where
  execution : String
  number : Nat
  initiator : Bool
  deriving DecidableEq, Repr

-- At most one run of each spider is registered. Everyone who knows a run shares its signals, also
-- after its registration is gone. `signals` holds those of every registration that was ever made,
-- by its number.
structure Registry where
  live : List Registration
  signals : List Signals
  deriving DecidableEq, Repr

namespace Registry

def empty : Registry := ⟨[], []⟩

def find? (r : Registry) (spider : Int) : Option Registration :=
  r.live.find? (·.spider == spider)

def contains (r : Registry) (spider : Int) : Bool := (r.find? spider).isSome

def signalsOf (r : Registry) (number : Nat) : Signals := (r.signals[number]?).getD .fresh

-- The registration of the spider shares its signals with all who ask for its number.
def number? (r : Registry) (spider : Int) : Option Nat := (r.find? spider).map (·.number)

-- Ascending.
def running (r : Registry) : List Int := (r.live.map (·.spider)).mergeSort fun a b => a ≤ b

-- Refused while the spider has a run. The answer is the number of the registration.
def register (r : Registry) (spider : Int) (execution : String) : Option (Nat × Registry) :=
  if r.contains spider then none
  else
    let number := r.signals.length
    some (number, ⟨r.live ++ [⟨spider, execution, .running, none, number⟩], r.signals ++ [.fresh]⟩)

def change (r : Registry) (spider : Int) (f : Registration → Registration) : Registry :=
  { r with live := r.live.map fun e => if e.spider = spider then f e else e }

-- The registration of the spider, if it is the one of this execution.
def own? (r : Registry) (spider : Int) (execution : String) : Option Registration :=
  (r.find? spider).filter (·.execution == execution)

def attach (r : Registry) (spider : Int) (execution : String) (pid : Option Nat) : Registry :=
  match r.own? spider execution with
  | some _ => r.change spider fun e => { e with pid := pid }
  | none => r

-- Claims the run for a request to stop.
def beginStop (r : Registry) (spider : Int) : Option (StopTicket × Registry) :=
  match r.find? spider with
  | some e =>
    if e.phase.acceptsStop then
      some (⟨e.execution, e.number, e.phase == .running⟩,
        r.change spider fun e => { e with phase := .stopping })
    else none
  | none => none

-- Claims the run for its own task, whose process has come to its end.
def beginFinish (r : Registry) (spider : Int) (execution : String) : Option Registry :=
  match r.own? spider execution with
  | some e =>
    if e.phase = .running then some (r.change spider fun e => { e with phase := .finishing })
    else none
  | none => none

def signal (r : Registry) (number : Nat) (f : Signals → Signals) : Registry :=
  { r with signals := r.signals.modify number f }

def cancel (r : Registry) (number : Nat) : Registry :=
  r.signal number fun s => { s with cancel := true }

def finish (r : Registry) (number : Nat) : Registry :=
  r.signal number fun s => { s with finished := true }

def release (r : Registry) (number : Nat) : Registry :=
  r.signal number fun s => { s with released := true }

-- Takes the registration out and releases those who wait for it.
def remove (r : Registry) (spider : Int) (execution : String) : Option Registry :=
  (r.own? spider execution).map fun e =>
    Registry.release { r with live := r.live.filter (·.spider != spider) } e.number

end Registry

end Spiderworks
