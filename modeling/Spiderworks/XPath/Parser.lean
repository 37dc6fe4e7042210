import Spiderworks.XPath.Token

namespace Spiderworks.XPath

-- The operators of each level that has binary ones, loosest first. Those of one level group to the
-- left.
def levels : List (List Operator) :=
  [[.or], [.and], [.equal, .notEqual], [.less, .lessOrEqual, .greater, .greaterOrEqual],
    [.plus, .minus], [.times, .divide, .remainder]]

def isStepStart : List Token → Bool
  | .axis _ :: _ | .test _ :: _ => true
  | _ => false

-- The number of tokens bounds the nesting; each level of operators takes one more unit of fuel.
mutual
def expr? : Nat → List Token → Option (Expr × List Token)
  | 0, _ => none
  | fuel + 1, ts => level? fuel levels ts

def level? (fuel : Nat) (ls : List (List Operator)) (ts : List Token) :
    Option (Expr × List Token) :=
  match fuel, ls with
  | 0, _ => none
  | fuel + 1, [] => signed? fuel ts
  | fuel + 1, ops :: inner =>
    match level? fuel inner ts with
    | some (left, rest) => more? fuel ops inner left rest
    | none => none

-- More operands of one level.
def more? (fuel : Nat) (ops : List Operator) (inner : List (List Operator)) (left : Expr)
    (ts : List Token) : Option (Expr × List Token) :=
  match fuel, ts with
  | 0, _ => none
  | fuel + 1, .operator op :: rest =>
    if ops.contains op then
      match level? fuel inner rest with
      | some (right, rest) => more? fuel ops inner (.binary op left right) rest
      | none => none
    else some (left, ts)
  | _ + 1, _ => some (left, ts)

def signed? (fuel : Nat) (ts : List Token) : Option (Expr × List Token) :=
  match fuel, ts with
  | 0, _ => none
  | fuel + 1, .operator .minus :: rest =>
    (signed? fuel rest).map fun (e, rest) => (.negative e, rest)
  | fuel + 1, _ =>
    match pathExpr? fuel ts with
    | some (left, rest) => unions? fuel left rest
    | none => none

def unions? (fuel : Nat) (left : Expr) (ts : List Token) : Option (Expr × List Token) :=
  match fuel, ts with
  | 0, _ => none
  | fuel + 1, .operator .union :: rest =>
    match pathExpr? fuel rest with
    | some (right, rest) => unions? fuel (.binary .union left right) rest
    | none => none
  | _ + 1, _ => some (left, ts)

def pathExpr? (fuel : Nat) (ts : List Token) : Option (Expr × List Token) :=
  match fuel, ts with
  | 0, _ => none
  | fuel + 1, .slash :: rest =>
    if isStepStart rest then
      (steps? fuel rest).map fun (steps, rest) => (.path .root steps, rest)
    else some (.root, rest)
  | fuel + 1, _ =>
    if isStepStart ts then
      (steps? fuel ts).map fun (steps, rest) => (.path .context steps, rest)
    else
      match primary? fuel ts with
      | none => none
      | some (e, rest) =>
        match predicates? fuel rest with
        | none => none
        | some (ps, rest) =>
          let filtered := ps.foldl .filter e
          match rest with
          | .slash :: rest =>
            (steps? fuel rest).map fun (steps, rest) => (.path filtered steps, rest)
          | _ => some (filtered, rest)

-- One step at least, joined by slashes.
def steps? (fuel : Nat) (ts : List Token) : Option (List Step × List Token) :=
  match fuel with
  | 0 => none
  | fuel + 1 =>
    let (axis, afterAxis) := match ts with
      | .axis a :: rest => (a, rest)
      | _ => (.child, ts)
    match afterAxis with
    | .test t :: rest =>
      match predicates? fuel rest with
      | none => none
      | some (ps, rest) =>
        let step := Step.mk axis t ps
        match rest with
        | .slash :: rest => (steps? fuel rest).map fun (more, rest) => (step :: more, rest)
        | _ => some ([step], rest)
    | _ => none

def predicates? (fuel : Nat) (ts : List Token) : Option (List Expr × List Token) :=
  match fuel, ts with
  | 0, _ => none
  | fuel + 1, .openPredicate :: rest =>
    match expr? fuel rest with
    | some (e, .closePredicate :: rest) =>
      (predicates? fuel rest).map fun (ps, rest) => (e :: ps, rest)
    | _ => none
  | _ + 1, _ => some ([], ts)

def primary? (fuel : Nat) (ts : List Token) : Option (Expr × List Token) :=
  match fuel, ts with
  | fuel + 1, .open :: rest =>
    match expr? fuel rest with
    | some (e, .close :: rest) => some (e, rest)
    | _ => none
  | _ + 1, .number x :: rest => some (.number x, rest)
  | _ + 1, .text s :: rest => some (.text s, rest)
  | _ + 1, .variable name :: rest => some (.variable name, rest)
  | fuel + 1, .function name :: .open :: rest =>
    match rest with
    | .close :: rest => some (.call name [], rest)
    | _ => (arguments? fuel rest).map fun (args, rest) => (.call name args, rest)
  | _, _ => none

-- Arguments up to the closing parenthesis.
def arguments? (fuel : Nat) (ts : List Token) : Option (List Expr × List Token) :=
  match fuel with
  | 0 => none
  | fuel + 1 =>
    match expr? fuel ts with
    | some (e, .close :: rest) => some ([e], rest)
    | some (e, .comma :: rest) => (arguments? fuel rest).map fun (es, rest) => (e :: es, rest)
    | _ => none
end

-- A text that holds no expression is none.
def read? (s : String) : Option Expr :=
  match tokens? s with
  | none => none
  | some ts =>
    match expr? (16 * (ts.length + 1)) ts with
    | some (e, []) => some e
    | _ => none

end Spiderworks.XPath
