import Spiderworks.Decimal.Reader
import Spiderworks.Decimal.Shortest
import Spiderworks.XPath.Outline

namespace Spiderworks.XPath

-- `nodes` are in document order, each once.
inductive Value where
  | nodes (ns : List Nat)
  | boolean (b : Bool)
  | number (x : Float)
  | text (s : String)

inductive Fault where
  | unknownFunction (name : String)
  | unknownVariable (name : String)
  | argumentCount
  | notNodes
  deriving DecidableEq, Repr

abbrev Eval (α : Type) := Except Fault α

-- A text that writes no number is not a number.
def numberOf (s : String) : Float := (Decimal.read? (Text.trim s.toList)).getD (0.0 / 0.0)

def numberText (x : Float) : String :=
  match Decimal.parts x with
  | .infinite negative => if negative then "-Infinity" else "Infinity"
  | _ => String.ofList (Decimal.plain x)

namespace Value

-- A set of nodes has the text of its first node.
def asText (o : Outline) : Value → String
  | .nodes [] => ""
  | .nodes (n :: _) => o.string n
  | .boolean b => if b then "true" else "false"
  | .number x => numberText x
  | .text s => s

def asNumber (o : Outline) : Value → Float
  | .number x => x
  | .boolean b => if b then 1.0 else 0.0
  | v => numberOf (v.asText o)

def truth : Value → Bool
  | .nodes ns => !ns.isEmpty
  | .boolean b => b
  | .number x => !(x == 0.0) && x == x
  | .text s => !s.isEmpty

def asNodes : Value → Eval (List Nat)
  | .nodes ns => .ok ns
  | _ => .error .notNodes

-- A set of nodes equals a value if one of its nodes does.
def equal (o : Outline) : Value → Value → Bool
  | .boolean a, b => a == b.truth
  | a, .boolean b => a.truth == b
  | .nodes a, .nodes b => a.any fun n => b.any fun m => o.string n == o.string m
  | .nodes a, .number x | .number x, .nodes a => a.any fun n => numberOf (o.string n) == x
  | .nodes a, .text s | .text s, .nodes a => a.any fun n => o.string n == s
  | .number x, b => x == b.asNumber o
  | a, .number y => a.asNumber o == y
  | .text a, .text b => a == b

end Value

-- ### Arithmetic

def floor (x : Float) : Float :=
  match Decimal.parts x with
  | .finite negative m q _ =>
    let (whole, rest) := Decimal.wholePart m q
    if negative then Decimal.ofWhole true (if rest then whole + 1 else whole)
    else Decimal.ofWhole false whole
  | _ => x

def ceiling (x : Float) : Float := -floor (-x)

-- Halves go up. What is below zero stays below it, though it becomes a zero.
def round (x : Float) : Float :=
  let y := floor x
  if x == y then x
  else
    let z := floor (2.0 * x - y)
    if x < 0.0 && z == 0.0 then -0.0 else z

-- The remainder has the sign of the dividend. Both numbers are whole multiples of one power of
-- two, so the remainder is exact.
def remainder (x y : Float) : Float :=
  match Decimal.parts x, Decimal.parts y with
  | .finite negative m q _, .finite _ n r _ =>
    if n = 0 then 0.0 / 0.0
    else
      let low := min q r
      let rest := (m * Nat.pow 2 (q - low).toNat) % (n * Nat.pow 2 (r - low).toNat)
      let size :=
        if 0 ≤ low then Float.ofScientific (rest * Nat.pow 2 low.toNat) false 0
        else Float.ofScientific (rest * Nat.pow 5 (-low).toNat) true (-low).toNat
      if negative then -size else size
  | .finite _ _ _ _, .infinite _ => x
  | _, _ => 0.0 / 0.0

-- The whole part of a number as a position; what is below zero or no number is position 0.
def position (x : Float) : Nat :=
  match Decimal.parts x with
  | .finite false m q _ => (Decimal.wholePart m q).1
  | .infinite false => Nat.pow 2 64 - 1
  | _ => 0

end Spiderworks.XPath
