namespace Spiderworks.Decimal

-- A finite double is `m · 2 ^ q`. `narrow` says that the next smaller double is only half as far
-- away as the next larger one, as it is at a power of two.
inductive Parts where
  | nan
  | infinite (negative : Bool)
  | finite (negative : Bool) (m : Nat) (q : Int) (narrow : Bool)
  deriving DecidableEq, Repr

def Parts.ofBits (bits : Nat) : Parts :=
  let negative : Bool := Nat.pow 2 63 ≤ bits
  let exponent : Nat := bits / Nat.pow 2 52 % 2048
  let fraction : Nat := bits % Nat.pow 2 52
  if exponent = 2047 then
    if fraction = 0 then .infinite negative else .nan
  else if exponent = 0 then .finite negative fraction (-1074) false
  else
    .finite negative (Nat.pow 2 52 + fraction) ((exponent : Int) - 1075)
      (fraction == 0 && decide (1 < exponent))

def parts (x : Float) : Parts := Parts.ofBits x.toBits.toNat

-- The greatest whole number not above `m · 2 ^ q`, and whether something is left over.
def wholePart (m : Nat) (q : Int) : Nat × Bool :=
  if 0 ≤ q then (m * Nat.pow 2 q.toNat, false)
  else (m / Nat.pow 2 (-q).toNat, decide (m % Nat.pow 2 (-q).toNat ≠ 0))

-- The value of a finite double as a whole number, cut toward zero.
def truncate? (x : Float) : Option Int :=
  match parts x with
  | .finite negative m q _ =>
    let whole : Int := (wholePart m q).1
    some (if negative then -whole else whole)
  | _ => none

-- A whole number as a double, to the nearest one, with the given sign when it is zero.
def ofWhole (negative : Bool) (n : Nat) : Float :=
  let x := Float.ofScientific n false 0
  if negative then -x else x

end Spiderworks.Decimal
