import Spiderworks.Text.Digits
import Spiderworks.Text.Blank

namespace Spiderworks.Decimal

open Spiderworks.Text

-- The nearest double to `digits · 10 ^ exponent`. Beyond the range of doubles no power is built.
def nearest (digits : Nat) (exponent : Int) : Float :=
  if digits = 0 then 0.0
  else
    let place := exponent + (ofNat digits).length
    if 400 < place then 1.0 / 0.0
    else if place < -400 then 0.0
    else if 0 ≤ exponent then Float.ofScientific digits false exponent.toNat
    else Float.ofScientific digits true (-exponent).toNat

-- A signed run of digits, all of the text.
def wholeExponent? (s : List Char) : Option Int :=
  let (negative, ds) := match s with
    | '+' :: r => (false, r)
    | '-' :: r => (true, r)
    | r => (false, r)
  if ds.isEmpty || !ds.all isDigit then none
  else some (if negative then -(digitsValue ds : Int) else digitsValue ds)

def magnitude? (s : List Char) : Option Float :=
  let word := String.ofList (s.map asciiLower)
  if word = "inf" || word = "infinity" then some (1.0 / 0.0)
  else if word = "nan" then some (0.0 / 0.0)
  else
    let whole := s.takeWhile isDigit
    let afterWhole := s.dropWhile isDigit
    let (fraction, afterFraction) := match afterWhole with
      | '.' :: r => (r.takeWhile isDigit, r.dropWhile isDigit)
      | r => ([], r)
    if whole.isEmpty && fraction.isEmpty then none
    else
      let digits := digitsValue (whole ++ fraction)
      match afterFraction with
      | [] => some (nearest digits (-fraction.length))
      | c :: r =>
        if c = 'e' || c = 'E' then
          (wholeExponent? r).map fun e => nearest digits (e - fraction.length)
        else none

-- An optional sign, digits with an optional point (at least one digit on one of its sides) and an
-- optional exponent, or a word for infinity or for no number in any case.
def read? (s : List Char) : Option Float :=
  match s with
  | '+' :: r => magnitude? r
  | '-' :: r => (magnitude? r).map (-·)
  | r => magnitude? r

end Spiderworks.Decimal
