import Mathlib.Data.List.Induction
import Spiderworks.Engine.Machine

namespace Spiderworks

-- Who works for an execution: the call that starts it, its own task, or a call that stops it.
inductive Party where
  | start (i : Nat)
  | run (j : Nat)
  | stop (k : Nat)
  deriving DecidableEq, Repr

-- `begun`, `settled` and `stopped` are the entries in the store: that a run has started, which
-- may fail, the final one that its task makes, and the final one that a request to stop makes.
-- `granted` and `claimed` are the two claims, `expired` says that a request has waited long
-- enough for a run that was not finished, and `freed` that a registration was taken out.
inductive Event where
  | registered (i : Nat) (spider : Int) (execution : String) (number : Nat)
  | begun (i : Nat) (spider : Int) (execution : String) (recorded : Bool)
  | granted (k : Nat) (spider : Int) (ticket : StopTicket)
  | expired (k : Nat) (spider : Int) (ticket : StopTicket)
  | claimed (j : Nat) (spider : Int) (execution : String)
  | settled (j : Nat) (spider : Int) (execution : String) (e : RunEnd)
  | stopped (k : Nat) (spider : Int) (execution : String)
  | freed (p : Party) (spider : Int) (execution : String)

namespace Event

def party : Event → Party
  | .registered i _ _ _ | .begun i _ _ _ => .start i
  | .claimed j _ _ | .settled j _ _ _ => .run j
  | .granted k _ _ | .expired k _ _ | .stopped k _ _ => .stop k
  | .freed p _ _ => p

def execution : Event → String
  | .registered _ _ x _ | .begun _ _ x _ | .claimed _ _ x | .settled _ _ x _ | .stopped _ _ x
  | .freed _ _ x => x
  | .granted _ _ t | .expired _ _ t => t.execution

def spider : Event → Int
  | .registered _ a _ _ | .begun _ a _ _ | .claimed _ a _ | .settled _ a _ _ | .stopped _ a _
  | .freed _ a _ | .granted _ a _ | .expired _ a _ => a

-- The final entries.
def isFinal : Event → Bool
  | .settled _ _ _ _ | .stopped _ _ _ => true
  | _ => false

-- The entries that set the status of their spider, and what they set it to.
def isEntry : Event → Bool
  | .begun _ _ _ _ | .settled _ _ _ _ | .stopped _ _ _ => true
  | _ => false

theorem isEntry_of_isFinal {event : Event} (hf : event.isFinal = true) : event.isEntry = true := by
  cases event <;> first | rfl | cases hf

def status? : Event → Option Status
  | .begun _ _ _ true => some .running
  | .settled _ _ _ (.exited o) => some (Status.ofExitCode o.code)
  | .settled _ _ _ (.failed _) => some .error
  | .stopped _ _ _ => some .stopped
  | _ => none

end Event

-- ### Events of the parties

def RunEnd.isStopped : RunEnd → Bool
  | .stopped => true
  | _ => false

def StartCall.event? (s : Setup) (i : Nat) (c : StartCall) (h : Hub) : Option Event :=
  match c.stage with
  | .registering _ =>
      let execution := (h.newName s).1
      (h.registry.register c.spider execution).map fun r => .registered i c.spider execution r.1
  | .marking d execution _ => some (.begun i d.id execution (c.step s h).2.1.isSome)
  | .withdrawing execution _ =>
      (h.registry.remove c.spider execution).map fun _ => .freed (.start i) c.spider execution
  | _ => none

def Run.event? (j : Nat) (r : Run) (h : Hub) : Option Event :=
  match r.stage with
  | .ended e =>
      if e.isStopped then none
      else (h.registry.beginFinish r.spider.id r.execution).map fun _ =>
        .claimed j r.spider.id r.execution
  | .claimed e => some (.settled j r.spider.id r.execution e)
  | .leaving =>
      (h.registry.remove r.spider.id r.execution).map fun _ =>
        .freed (.run j) r.spider.id r.execution
  | _ => none

def StopCall.event? (k : Nat) (move : StopMove) (c : StopCall) (h : Hub) : Option Event :=
  match c.stage with
  | .asking => (h.registry.beginStop c.spider).map fun r => .granted k c.spider r.1
  | .settling t =>
      if move = .expire ∧ (h.registry.signalsOf t.number).finished = false then
        some (.expired k c.spider t)
      else none
  | .marking t => some (.stopped k c.spider t.execution)
  | .leaving t _ =>
      (h.registry.remove c.spider t.execution).map fun _ => .freed (.stop k) c.spider t.execution
  | _ => none

namespace Engine

def event? (s : Setup) (e : Engine) : Action → Option Event
  | .start i => (e.starts[i]?).bind (·.event? s i e.hub)
  | .run j _ => (e.runs[j]?).bind (·.event? j e.hub)
  | .stop k m => (e.stops[k]?).bind (·.event? k m e.hub)
  | _ => none

def history (s : Setup) (e : Engine) : List Action → List Event
  | [] => []
  | a :: rest => (e.event? s a).toList ++ history s (e.act s a) rest

variable {s : Setup}

@[simp] theorem perform_nil (e : Engine) : e.perform s [] = e := rfl

@[simp] theorem perform_cons (e : Engine) (a : Action) (rest : List Action) :
    e.perform s (a :: rest) = (e.act s a).perform s rest := rfl

theorem perform_append (e : Engine) (before after : List Action) :
    e.perform s (before ++ after) = (e.perform s before).perform s after :=
  List.foldl_append

theorem history_append (e : Engine) (before after : List Action) :
    e.history s (before ++ after) = e.history s before ++ (e.perform s before).history s after := by
  induction before generalizing e with
  | nil => rfl
  | cons a rest ih => simp only [List.cons_append, history, ih, perform_cons, List.append_assoc]

theorem history_concat (e : Engine) (actions : List Action) (a : Action) :
    e.history s (actions ++ [a]) =
      e.history s actions ++ ((e.perform s actions).event? s a).toList := by
  simp only [history_append, history, List.append_nil]

-- What holds at first and is kept by every action, along with what the action adds to the history,
-- holds after every interleaving.
theorem perform_induction {P : Engine → List Event → Prop} {e : Engine} (first : P e [])
    (next : ∀ e log a, P e log → P (e.act s a) (log ++ (e.event? s a).toList))
    (actions : List Action) : P (e.perform s actions) (e.history s actions) := by
  induction actions using List.reverseRecOn with
  | nil => exact first
  | append_singleton actions a ih =>
      rw [perform_append, history_concat]
      exact next _ _ a ih

end Engine

end Spiderworks
