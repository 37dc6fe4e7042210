import Spiderworks.Engine.Hub

namespace Spiderworks

inductive WaitStage where
  | asking
  | following (number : Nat)
  | done
  deriving DecidableEq, Repr

-- Waiting for the run that a spider has at the moment of asking, until its registration is gone.
structure WaitCall where
  spider : Int
  stage : WaitStage
  deriving DecidableEq, Repr

namespace WaitCall

def nextStage (c : WaitCall) (h : Hub) : WaitStage :=
  match c.stage with
  | .asking =>
    match h.registry.number? c.spider with
    | some n => .following n
    | none => .done
  | .following n => if (h.registry.signalsOf n).released then .done else .following n
  | .done => .done

def step (h : Hub) (c : WaitCall) : WaitCall := { c with stage := c.nextStage h }

end WaitCall

end Spiderworks
