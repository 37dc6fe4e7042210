import Spiderworks.Engine.Machine

namespace Spiderworks.Engine

-- ### Turns

-- How many steps a run takes in one turn: everything that it has to store goes at once.
def workload (r : Run) : Nat :=
  match r.stage with
  | .saving _ chores _ => chores.length + 1
  | .registering _ files _ => files.length + 1
  | _ => 1

-- A request to stop is heeded before the end of the process is noticed.
def turnOfRun (h : Hub) (i : Nat) (r : Run) : List Action :=
  let m : RunMove := if (r.signals h).cancel then .heed else .onward
  List.replicate (workload r) (.run i m)

def turnOfRunAt (s : Setup) (e : Engine) (i : Nat) : Engine :=
  match e.runs[i]? with
  | some r => e.perform s (turnOfRun e.hub i r)
  | none => e

def runRound (s : Setup) (e : Engine) : Engine :=
  (List.range e.runs.length).foldl (turnOfRunAt s) e

-- One caller at a time. A request that has to wait lets everyone who is at work take turns until it
-- is answered; a request that has not to wait leaves the others where they are.
def round (s : Setup) (e : Engine) : Engine :=
  let e := (runRound s e).perform s ((List.range e.calls.length).map fun i => .call i .onward)
  let e := e.perform s ((List.range e.stops.length).map fun i => .stop i .onward)
  e.perform s ((List.range e.waiters.length).map .wait)

-- No run takes more turns from its start to its end, and no call and no stop takes more than that
-- beyond the run that it waits for.
def patience : Nat := 24

def turns (s : Setup) (goal : Engine → Bool) : Nat → Engine → Engine
  | 0, e => e
  | n + 1, e => if goal e then e else turns s goal n (round s e)

def turnsUntil (s : Setup) (e : Engine) (goal : Engine → Bool) : Engine := turns s goal patience e

-- ### Requests

-- A start is answered at once; the run comes to work later.
def start (s : Setup) (e : Engine) (spider : Int) : Option (Except EngineError String) × Engine :=
  let i := e.starts.length
  let e := (e.askStart spider).perform s (List.replicate 5 (.start i))
  ((e.starts[i]?).bind (·.result?), e)

def isOver (e : Engine) (i : Nat) : Bool := (e.waiters[i]?).any (·.stage == .done)

-- Until the run of the spider is over and its registration gone.
def wait (s : Setup) (e : Engine) (spider : Int) : Engine :=
  let i := e.waiters.length
  ((e.askWait spider).perform s [.wait i]).turnsUntil s (isOver · i)

def isWatching (r : Run) : Bool :=
  match r.stage with
  | .watching _ _ => true
  | _ => false

-- Until the process of the spider has been launched and watched.
def ready (s : Setup) (e : Engine) (spider : Int) : Engine :=
  e.turnsUntil s fun e => e.runs.any fun r => r.spider.id == spider && isWatching r

def stopResult (e : Engine) (i : Nat) : Option (Except EngineError Unit) :=
  (e.stops[i]?).bind (·.result?)

-- Several requests to stop the same spider, made at the same time.
def stop (s : Setup) (e : Engine) (spider : Int) (times : Nat) :
    List (Option (Except EngineError Unit)) × Engine :=
  let mine := (List.range times).map (e.stops.length + ·)
  let e := mine.foldl (fun e i => (e.askStop spider).perform s [.stop i .onward, .stop i .onward]) e
  let e := e.turnsUntil s fun e => mine.all fun i => (stopResult e i).isSome
  (mine.map (stopResult e), e)

def callResult (e : Engine) (i : Nat) : Option (Except EngineError DirectResult) :=
  (e.calls[i]?).bind (·.result?)

def call (s : Setup) (e : Engine) (spider : Int) (code : Option String) :
    Option (Except EngineError DirectResult) × Engine :=
  let i := e.calls.length
  let e := (e.askCall s spider code).perform s [.call i .onward]
  let e := e.turnsUntil s fun e => (callResult e i).isSome
  (callResult e i, e)

end Spiderworks.Engine
