import Spiderworks.Engine.DirectCall
import Spiderworks.Engine.Start
import Spiderworks.Engine.Stop
import Spiderworks.Engine.Wait

namespace Spiderworks

-- The hub, and everyone who is at work with it. They are listed in the order in which they began
-- and keep their places.
structure Engine where
  hub : Hub
  starts : List StartCall
  runs : List Run
  stops : List StopCall
  calls : List DirectCall
  waiters : List WaitCall

-- Whoever moves next is an action from outside. An action of someone who is not there, or cannot
-- move, changes nothing.
inductive Action where
  | askStart (spider : Int)
  | askStop (spider : Int)
  | askCall (spider : Int) (code : Option String)
  | askWait (spider : Int)
  | start (i : Nat)
  | run (i : Nat) (m : RunMove)
  | stop (i : Nat) (m : StopMove)
  | call (i : Nat) (m : DirectMove)
  | wait (i : Nat)
  deriving DecidableEq, Repr

namespace Engine

def ofSite (site : Site) : Engine := ⟨.ofSite site, [], [], [], [], []⟩

def askStart (e : Engine) (spider : Int) : Engine :=
  { e with starts := e.starts ++ [⟨spider, .asking⟩] }

def askStop (e : Engine) (spider : Int) : Engine :=
  { e with stops := e.stops ++ [⟨spider, .asking⟩] }

-- A direct call has its name and its time from the beginning.
def askCall (s : Setup) (e : Engine) (spider : Int) (code : Option String) : Engine :=
  let (began, h) := e.hub.readClock s
  let (execution, h) := h.newName s
  { e with hub := h, calls := e.calls ++ [⟨spider, code, execution, began, .admitting⟩] }

def askWait (e : Engine) (spider : Int) : Engine :=
  { e with waiters := e.waiters ++ [⟨spider, .asking⟩] }

def moveStart (s : Setup) (e : Engine) (i : Nat) : Engine :=
  match e.starts[i]? with
  | none => e
  | some c =>
    let (c, run, h) := c.step s e.hub
    { e with hub := h, starts := e.starts.set i c, runs := e.runs ++ run.toList }

def moveRun (s : Setup) (e : Engine) (i : Nat) (m : RunMove) : Engine :=
  match e.runs[i]? with
  | none => e
  | some r =>
    let (r, h) := r.step s m e.hub
    { e with hub := h, runs := e.runs.set i r }

def moveStop (s : Setup) (e : Engine) (i : Nat) (m : StopMove) : Engine :=
  match e.stops[i]? with
  | none => e
  | some c =>
    let (c, h) := c.step s m e.hub
    { e with hub := h, stops := e.stops.set i c }

def moveCall (s : Setup) (e : Engine) (i : Nat) (m : DirectMove) : Engine :=
  match e.calls[i]? with
  | none => e
  | some c =>
    let (c, h) := c.step s m e.hub
    { e with hub := h, calls := e.calls.set i c }

-- Who waits changes nothing but how far it has come itself.
def moveWait (e : Engine) (i : Nat) : Engine :=
  { e with waiters := e.waiters.modify i (·.step e.hub) }

def act (s : Setup) (e : Engine) : Action → Engine
  | .askStart spider => e.askStart spider
  | .askStop spider => e.askStop spider
  | .askCall spider code => e.askCall s spider code
  | .askWait spider => e.askWait spider
  | .start i => e.moveStart s i
  | .run i m => e.moveRun s i m
  | .stop i m => e.moveStop s i m
  | .call i m => e.moveCall s i m
  | .wait i => e.moveWait i

-- One interleaving.
def perform (s : Setup) (e : Engine) (actions : List Action) : Engine := actions.foldl (act s) e

end Engine

end Spiderworks
