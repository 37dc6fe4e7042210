import Spiderworks.Json.Basic

namespace Spiderworks.Json

open Spiderworks.Text

inductive ReadError where
  | cutShort
  | malformed
  deriving DecidableEq, Repr

-- Numbers are read digit by digit into a word of 64 bits. A whole number that fits is exact. Any
-- other number is the double of that word, multiplied or divided by one power of ten: digits that
-- no longer fit only move the exponent, and the two roundings can leave the answer next to the
-- nearest double.
def powerOfTen (k : Nat) : Float := Float.ofScientific 1 false k

-- Two divisions take every word below the smallest double, so `2` steps are enough.
def scaled? (f : Float) (e : Int) : Nat → Option Float
  | 0 => some f
  | steps + 1 =>
    if e.natAbs ≤ 308 then
      if 0 ≤ e then
        let g := f * powerOfTen e.natAbs
        if g.isInf then none else some g
      else some (f / powerOfTen e.natAbs)
    else if f == 0.0 then some f
    else if 0 ≤ e then none
    else scaled? (f / powerOfTen 308) (e + 308) steps

def ofParts (negative : Bool) (word : Nat) (e : Int) : Except ReadError Number :=
  match scaled? (Float.ofScientific word false 0) e 3 with
  | none => .error .malformed
  | some f => .ok (.double (if negative then -f else f))

-- Digits are taken as long as the word holds them. The second part is what follows them.
def takeWord (word : Nat) : List Char → Nat × List Char
  | [] => (word, [])
  | c :: rest =>
    if isDigit c && decide (word * 10 + digitValue c < Nat.pow 2 64) then
      takeWord (word * 10 + digitValue c) rest
    else (word, c :: rest)

def startsWithDigit : List Char → Bool
  | c :: _ => isDigit c
  | [] => false

-- After the letter of the exponent.
def readExponent (negative : Bool) (word : Nat) (start : Int) (s : List Char) :
    Except ReadError (Number × List Char) :=
  let (down, s) := match s with
    | '+' :: r => (false, r)
    | '-' :: r => (true, r)
    | r => (false, r)
  match s with
  | [] => .error .cutShort
  | _ =>
    let ds := s.takeWhile isDigit
    let rest := s.dropWhile isDigit
    if ds.isEmpty then .error .malformed
    else
      let e : Int := digitsValue ds
      if Nat.pow 2 31 ≤ e ∧ word ≠ 0 ∧ !down then .error .malformed
      else do
        let n ← ofParts negative word (if down then start - e else start + e)
        return (n, rest)

-- What may follow the digits.
def readTail (negative : Bool) (word : Nat) (e : Int) (s : List Char) :
    Except ReadError (Number × List Char) :=
  match s with
  | c :: r =>
    if c = 'e' ∨ c = 'E' then readExponent negative word e r
    else do
      let n ← ofParts negative word e
      return (n, c :: r)
  | [] => do
    let n ← ofParts negative word e
    return (n, [])

-- After the point.
def readFraction (negative : Bool) (word : Nat) (e : Int) (s : List Char) :
    Except ReadError (Number × List Char) :=
  if startsWithDigit s then
    let (longer, rest) := takeWord word s
    let taken := s.length - rest.length
    readTail negative longer (e - taken) (rest.dropWhile isDigit)
  else if s.isEmpty then .error .cutShort
  else .error .malformed

def exactOrDouble (negative : Bool) (word : Nat) : Number :=
  if negative then
    if 0 < word ∧ word ≤ Nat.pow 2 63 then .whole (-word)
    else .double (-(Float.ofScientific word false 0))
  else .whole word

-- After the digits of the whole part. `dropped` of them did not fit into the word.
def readRest (negative : Bool) (word : Nat) (dropped : Nat) (s : List Char) :
    Except ReadError (Number × List Char) :=
  match s with
  | '.' :: r => readFraction negative word dropped r
  | c :: r =>
    if c = 'e' ∨ c = 'E' then readExponent negative word dropped r
    else if dropped = 0 then .ok (exactOrDouble negative word, c :: r)
    else do
      let n ← ofParts negative word dropped
      return (n, c :: r)
  | [] =>
    if dropped = 0 then .ok (exactOrDouble negative word, [])
    else do
      let n ← ofParts negative word dropped
      return (n, [])

-- After the sign. A zero in front stands alone.
def readMagnitude (negative : Bool) (s : List Char) : Except ReadError (Number × List Char) :=
  match s with
  | [] => .error .cutShort
  | '0' :: r => if startsWithDigit r then .error .malformed else readRest negative 0 0 r
  | c :: r =>
    if isDigit c then
      let (word, rest) := takeWord (digitValue c) r
      let unread := rest.dropWhile isDigit
      readRest negative word (rest.length - unread.length) unread
    else .error .malformed

end Spiderworks.Json
