import Spiderworks.Text.Digits

namespace Spiderworks.Url.Punycode

-- A text is written in ASCII: first its ASCII letters, then the others as numbers that say how far
-- the next insertion is from the one before.
def digit? (c : Char) : Option Nat :=
  if 'a' ≤ c ∧ c ≤ 'z' then some (c.toNat - 'a'.toNat)
  else if 'A' ≤ c ∧ c ≤ 'Z' then some (c.toNat - 'A'.toNat)
  else if '0' ≤ c ∧ c ≤ '9' then some (c.toNat - '0'.toNat + 26)
  else none

-- Digits in front of the threshold end a number. It moves with the place of the digit.
def threshold (bias place : Nat) : Nat := min 26 (max 1 (36 * (place + 1) - bias))

-- A number of mixed radix from the front of a text.
def number? (bias : Nat) (place weight acc : Nat) : List Char → Option (Nat × List Char)
  | [] => none
  | c :: s =>
    match digit? c with
    | none => none
    | some d =>
      let acc := acc + d * weight
      let t := threshold bias place
      if d < t then some (acc, s) else number? bias (place + 1) (weight * (36 - t)) acc s

def settleBias (delta k : Nat) : Nat :=
  if 455 < delta then settleBias (delta / 35) (k + 36) else k + 36 * delta / (delta + 38)
termination_by delta
decreasing_by exact Nat.div_lt_self (by omega) (by omega)

def biasFor (delta length : Nat) (first : Bool) : Nat :=
  let delta := if first then delta / 700 else delta / 2
  settleBias (delta + delta / length) 0

def isCode (n : Nat) : Bool := n < 0xd800 || (0xe000 ≤ n && n < 0x110000)

-- Each insertion takes at least one letter.
def insertions? : Nat → List Char → Nat → Nat → Nat → List Char → Option (List Char)
  | _, [], _, _, _, out => some out
  | 0, _, _, _, _, _ => none
  | fuel + 1, s, code, i₀, bias, out =>
    match number? bias 0 1 0 s with
    | none => none
    | some (delta, rest) =>
      let length := out.length + 1
      let total := i₀ + delta
      let code := code + total / length
      let i := total % length
      if isCode code then
        insertions? fuel rest code (i + 1) (biasFor delta length (i₀ == 0))
          (out.take i ++ Char.ofNat code :: out.drop i)
      else none

-- The text that stands behind `xn--`. ASCII letters come before the last dash.
def decode? (s : List Char) : Option (List Char) :=
  let tail := (s.reverse.takeWhile (· ≠ '-')).reverse
  match s.take (s.length - tail.length) with
  | [] => insertions? tail.length tail 128 0 72 []
  | ['-'] => none
  | basic => insertions? tail.length tail 128 0 72 basic.dropLast

end Spiderworks.Url.Punycode
