import Spiderworks.Decimal.Parts
import Spiderworks.Text.Digits

namespace Spiderworks.Decimal

-- `digits · 10 ^ exponent`. The digits do not end in zero unless they are zero.
structure Digits where
  digits : Nat
  exponent : Int
  deriving DecidableEq, Repr

-- Which of two equally near neighbours is written.
inductive Tie where
  | even
  | up
  deriving DecidableEq, Repr

-- Numerator and denominator of `2 ^ s / 10 ^ k`.
def ratio (s k : Int) : Nat × Nat :=
  (Nat.pow 2 s.toNat * Nat.pow 10 (-k).toNat, Nat.pow 2 (-s).toNat * Nat.pow 10 k.toNat)

-- The place of the first digit of a positive `num / den`.
def leadingPlace (num den : Nat) : Int :=
  if den ≤ num then (Text.ofNat (num / den)).length - 1
  else -(Text.ofNat ((den + num - 1) / num - 1)).length

def stripZeros (d : Nat) (e : Int) : Digits :=
  if h : d = 0 then ⟨0, 0⟩
  else if d % 10 = 0 then stripZeros (d / 10) (e + 1)
  else ⟨d, e⟩
termination_by d
decreasing_by omega

-- The neighbours of `4 m · f / den` on the grid of whole numbers that lie between
-- `(4 m - below) · f / den` and `(4 m + 2) · f / den`.
def hit? (tie : Tie) (m below f den : Nat) : Option Nat :=
  let value := 4 * m * f
  let low := (4 * m - below) * f
  let high := (4 * m + 2) * f
  let inside (d : Nat) : Bool :=
    if m % 2 = 0 then low ≤ d * den && d * den ≤ high else low < d * den && d * den < high
  let d := value / den
  let belowGap := value - d * den
  let aboveGap := (d + 1) * den - value
  match inside d, inside (d + 1) with
  | true, false => some d
  | false, true => some (d + 1)
  | false, false => none
  | true, true =>
    if belowGap < aboveGap then some d
    else if aboveGap < belowGap then some (d + 1)
    else match tie with
      | .up => some (d + 1)
      | .even => some (if d % 2 = 0 then d else d + 1)

def shortestFrom (tie : Tie) (m : Nat) (q : Int) (below : Nat) (place : Int) : List Nat → Digits
  | [] => ⟨m, 0⟩
  | n :: rest =>
    let k := place - n + 1
    let (f, den) := ratio (q - 2) k
    match hit? tie m below f den with
    | some d => if d = 0 then shortestFrom tie m q below place rest else stripZeros d k
    | none => shortestFrom tie m q below place rest

-- The shortest decimal that reads back as the double. A double stands for all reals that round to
-- it; the ends of that interval belong to it when its mantissa is even. On the grid of `n` digits
-- only the two neighbours of the value itself can be nearest, so the first grid with a hit gives
-- the least number of digits, and the nearer of two hits is taken.
def shortest (tie : Tie) (m : Nat) (q : Int) (narrow : Bool) : Digits :=
  if m = 0 then ⟨0, 0⟩
  else
    let (f, den) := ratio q 0
    let place := leadingPlace (m * f) den
    shortestFrom tie m q (if narrow then 1 else 2) place ((List.range 17).map (· + 1))

-- ### Written in full

-- All digits are written out, without an exponent, and a point only before other digits.
def positional (d : Digits) : List Char :=
  let ds := Text.ofNat d.digits
  if 0 ≤ d.exponent then ds ++ List.replicate d.exponent.toNat '0'
  else
    let places := (-d.exponent).toNat
    if places < ds.length then
      ds.take (ds.length - places) ++ '.' :: ds.drop (ds.length - places)
    else "0.".toList ++ List.replicate (places - ds.length) '0' ++ ds

def plain (x : Float) : List Char :=
  match parts x with
  | .nan => "NaN".toList
  | .infinite negative => if negative then "-inf".toList else "inf".toList
  | .finite negative m q narrow =>
    let text := positional (shortest .up m q narrow)
    if negative then '-' :: text else text

end Spiderworks.Decimal
