import Spiderworks.Engine.Hub

namespace Spiderworks

-- The first request for a run asks it to stop, waits until its work is done, and writes its final
-- status; the others wait until that has happened. The first request does not wait for ever: when
-- its time is over it writes the status of a run that is still at work.
inductive StopStage where
  | asking
  | cancelling (t : StopTicket)
  | settling (t : StopTicket)
  | marking (t : StopTicket)
  | leaving (t : StopTicket) (result : Except EngineError Unit)
  | following (t : StopTicket)
  | done (result : Except EngineError Unit)

structure StopCall where
  spider : Int
  stage : StopStage

inductive StopMove where
  | onward
  | expire
  deriving DecidableEq, Repr

namespace StopCall

def result? (c : StopCall) : Option (Except EngineError Unit) :=
  match c.stage with
  | .done r => some r
  | _ => none

-- ### Steps

def stepAsking (c : StopCall) (h : Hub) : StopStage × Hub :=
  match h.registry.beginStop c.spider with
  | none => (.done (.error (.notRunning c.spider)), h)
  | some (t, registry) =>
    (if t.initiator then .cancelling t else .following t, h.setRegistry registry)

def stepSettling (t : StopTicket) (h : Hub) : StopMove → StopStage × Hub
  | .onward =>
    (if (h.registry.signalsOf t.number).finished then .marking t else .settling t, h)
  | .expire => (.marking t, h)

def stepMarking (s : Setup) (c : StopCall) (t : StopTicket) (h : Hub) : StopStage × Hub :=
  let (now, h) := h.readClock s
  let (result, h) := h.work (Work.session (Bookkeeping.markStopped now c.spider t.execution))
  (.leaving t result, h)

def nextStage (s : Setup) (move : StopMove) (c : StopCall) (h : Hub) : StopStage × Hub :=
  match c.stage with
  | .asking => c.stepAsking h
  | .cancelling t => (.settling t, h.setRegistry (h.registry.cancel t.number))
  | .settling t => stepSettling t h move
  | .marking t => c.stepMarking s t h
  | .leaving t result => (.done result, h.unregister c.spider t.execution)
  | .following t =>
    (if (h.registry.signalsOf t.number).released then .done (.ok ()) else .following t, h)
  | .done r => (.done r, h)

def step (s : Setup) (move : StopMove) (c : StopCall) (h : Hub) : StopCall × Hub :=
  let (stage, h) := c.nextStage s move h
  ({ c with stage := stage }, h)

end StopCall

end Spiderworks
