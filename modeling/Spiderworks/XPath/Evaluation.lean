import Spiderworks.XPath.Functions
import Spiderworks.XPath.Parser

namespace Spiderworks.XPath

-- The nodes along an axis, in the order in which positions are counted: nearest first where the
-- axis runs backwards.
def Axis.nodes (o : Outline) (n : Nat) : Axis → List Nat
  | .ancestor => o.ancestors n
  | .ancestorOrSelf => n :: o.ancestors n
  | .attribute => o.attributes n
  | .child => if o.isAside n then [] else o.children n
  | .descendant => if o.isAside n then [] else o.descendants n
  | .descendantOrSelf => n :: (if o.isAside n then [] else o.descendants n)
  | .following => o.following n
  | .followingSibling => (o.siblings n).filter (n < ·)
  | .namespace => o.namespaces n
  | .parent => if n = 0 then [] else [(o.row n).parent]
  | .preceding => (o.preceding n).reverse
  | .precedingSibling => ((o.siblings n).filter (· < n)).reverse
  | .itself => [n]

-- Whether a node is of the kind that names mean on an axis.
def Axis.isPrincipal (a : Axis) (k : Kind) : Bool :=
  match a, k with
  | .attribute, .attribute _ _ => true
  | .namespace, .namespace => true
  | .attribute, _ | .namespace, _ => false
  | _, .element _ _ => true
  | _, _ => false

def NodeTest.holds (o : Outline) (a : Axis) (n : Nat) : NodeTest → Bool
  | .node => true
  | .text => match (o.row n).kind with
    | .text _ => true
    | _ => false
  | .comment | .instruction => false
  | .any space => space.isNone && a.isPrincipal (o.row n).kind
  | .name space local_ => space.isNone && a.isPrincipal (o.row n).kind && o.name n == local_

-- Document order, each node once.
def inOrder (ns : List Nat) : List Nat := (ns.mergeSort (· ≤ ·)).eraseReps

-- A number as a predicate is a position.
def selects (f : Focus) : Value → Bool
  | .number x => f.position == position x
  | v => v.truth

def keepFrom (test : Focus → Eval Bool) (size : Nat) : Nat → List Nat → Eval (List Nat)
  | _, [] => .ok []
  | i, n :: ns => do
    let kept ← test ⟨n, i, size⟩
    let rest ← keepFrom test size (i + 1) ns
    return if kept then n :: rest else rest

-- The nodes that pass a test at their positions.
def keep (test : Focus → Eval Bool) (ns : List Nat) : Eval (List Nat) :=
  keepFrom test ns.length 1 ns

def arithmetic (o : Outline) (op : Operator) (a b : Value) : Value :=
  let x := a.asNumber o
  let y := b.asNumber o
  match op with
  | .less => .boolean (x < y)
  | .lessOrEqual => .boolean (x ≤ y)
  | .greater => .boolean (y < x)
  | .greaterOrEqual => .boolean (y ≤ x)
  | .plus => .number (x + y)
  | .minus => .number (x - y)
  | .times => .number (x * y)
  | .divide => .number (x / y)
  | .remainder => .number (remainder x y)
  | .equal => .boolean (a.equal o b)
  | .notEqual => .boolean !(a.equal o b)
  | _ => .boolean false

mutual
def Expr.value (o : Outline) (f : Focus) : Expr → Eval Value
  | .root => .ok (.nodes [0])
  | .context => .ok (.nodes [f.node])
  | .number x => .ok (.number x)
  | .text s => .ok (.text s)
  | .variable name => .error (.unknownVariable name)
  | .call name args => do call o f name (← valuesOf o f args)
  | .binary op left right => do
    let a ← left.value o f
    match op with
    | .or => if a.truth then .ok (.boolean true) else return .boolean (← right.value o f).truth
    | .and => if a.truth then return .boolean (← right.value o f).truth else .ok (.boolean false)
    | .union =>
      let b ← right.value o f
      return .nodes (inOrder ((← a.asNodes) ++ (← b.asNodes)))
    | _ => return arithmetic o op a (← right.value o f)
  | .negative e => do return .number (-((← e.value o f).asNumber o))
  | .filter e predicate => do
    let ns ← (← e.value o f).asNodes
    return .nodes (← keep (fun g => do return selects g (← predicate.value o g)) ns)
  | .path start steps => do
    let ns ← (← start.value o f).asNodes
    return .nodes (← walk o steps ns)
termination_by structural e => e

def valuesOf (o : Outline) (f : Focus) : List Expr → Eval (List Value)
  | [] => .ok []
  | e :: es => do return (← e.value o f) :: (← valuesOf o f es)
termination_by structural es => es

def walk (o : Outline) : List Step → List Nat → Eval (List Nat)
  | [], ns => .ok ns
  | s :: steps, ns => do
    let found ← ns.mapM fun n => s.nodesFrom o n
    walk o steps (inOrder found.flatten)
termination_by structural steps => steps

def Step.nodesFrom (o : Outline) (n : Nat) : Step → Eval (List Nat)
  | .mk axis test predicates =>
    keepAll o predicates ((axis.nodes o n).filter fun m => test.holds o axis m)
termination_by structural s => s

-- Each predicate counts the nodes that the ones before it have left.
def keepAll (o : Outline) : List Expr → List Nat → Eval (List Nat)
  | [], ns => .ok ns
  | p :: ps, ns => do
    keepAll o ps (← keep (fun g => do return selects g (← p.value o g)) ns)
termination_by structural ps => ps
end

end Spiderworks.XPath
