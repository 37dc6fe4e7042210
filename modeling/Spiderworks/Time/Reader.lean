import Spiderworks.Text.Blank
import Spiderworks.Time.Instant

namespace Spiderworks.Time

open Spiderworks.Text (isDigit digitsValue trim trimStart)

-- ### Pieces

-- Exactly two digits.
def twoDigits? : List Char → Option (Nat × List Char)
  | a :: b :: s => if isDigit a && isDigit b then some (digitsValue [a, b], s) else none
  | _ => none

def char? (c : Char) : List Char → Option (List Char)
  | d :: s => if d = c then some s else none
  | [] => none

-- The fraction of a second behind an optional point; digits past the ninth are dropped.
def nanos? : List Char → Option (Nat × List Char)
  | '.' :: s =>
    let ds := s.takeWhile isDigit
    if ds.isEmpty then none
    else
      let kept := ds.take 9
      some (digitsValue kept * Nat.pow 10 (9 - kept.length), s.dropWhile isDigit)
  | s => some (0, s)

-- Hours up to 23, minutes up to 59 and seconds up to 60, the last one a leap second.
def clock? (hour minute second nanos : Nat) : Option (Nat × Nat) :=
  if hour ≤ 23 ∧ minute ≤ 59 ∧ second ≤ 60 then
    let leap := second = 60
    some (hour * 3600 + minute * 60 + (if leap then 59 else second),
      if leap then billion + nanos else nanos)
  else none

def instant? (date : Date) (clock : Nat × Nat) (offset : Int) : Option Instant :=
  if date.isValid then some ⟨date.toDay * secondsPerDay + clock.1 - offset, clock.2⟩ else none

-- ### RFC 3339

-- The offset from universal time in seconds, up to the end of the text.
def offset? : List Char → Option Int
  | ['Z'] | ['z'] => some 0
  | sign :: s => do
    let (hours, s) ← twoDigits? s
    let s ← char? ':' s
    let (minutes, s) ← twoDigits? s
    if s.isEmpty ∧ hours ≤ 23 ∧ minutes ≤ 59 then
      let size : Int := hours * 3600 + minutes * 60
      if sign = '+' then some size
      else if sign = '-' ∨ sign = '\u2212' then some (-size)
      else none
    else none
  | [] => none

def rfc3339? (s : List Char) : Option Instant := do
  let (century, s) ← twoDigits? s
  let (year, s) ← twoDigits? s
  let (month, s) ← twoDigits? (← char? '-' s)
  let (day, s) ← twoDigits? (← char? '-' s)
  match s with
  | c :: s =>
    if c = 'T' ∨ c = 't' ∨ c = ' ' then
      let (hour, s) ← twoDigits? s
      let (minute, s) ← twoDigits? (← char? ':' s)
      let (second, s) ← twoDigits? (← char? ':' s)
      let (nanos, s) ← nanos? s
      let offset ← offset? s
      instant? ⟨century * 100 + year, month, day⟩ (← clock? hour minute second nanos) offset
    else none
  | [] => none

-- ### Without an offset

-- Up to `width` digits, one at least, behind any blanks.
def number? (width : Nat) (s : List Char) : Option (Nat × List Char) :=
  let s := trimStart s
  let ds := (s.take width).takeWhile isDigit
  if ds.isEmpty then none else some (digitsValue ds, s.drop ds.length)

-- A year with a sign may have any number of digits.
def year? (s : List Char) : Option (Int × List Char) :=
  let signed (s : List Char) : Option (Nat × List Char) :=
    let ds := s.takeWhile isDigit
    if ds.isEmpty then none else some (digitsValue ds, s.dropWhile isDigit)
  match trimStart s with
  | '-' :: s => (signed s).map fun (n, s) => (-(n : Int), s)
  | '+' :: s => (signed s).map fun (n, s) => ((n : Int), s)
  | s => (number? 4 s).map fun (n, s) => ((n : Int), s)

-- Dates are known for these years only.
def isKnownYear (y : Int) : Bool := decide (-262143 ≤ y) && decide (y ≤ 262142)

-- `between` reads what stands between the date and the time.
def naive? (between : List Char → Option (List Char)) (s : List Char) : Option Instant := do
  let (year, s) ← year? s
  let (month, s) ← number? 2 (← char? '-' s)
  let (day, s) ← number? 2 (← char? '-' s)
  let (hour, s) ← number? 2 (← between s)
  let (minute, s) ← number? 2 (← char? ':' s)
  let (second, s) ← number? 2 (← char? ':' s)
  let (nanos, s) ← nanos? s
  if s.isEmpty ∧ isKnownYear year then
    instant? ⟨year, month, day⟩ (← clock? hour minute second nanos) 0
  else none

def ofText? (s : List Char) : Option Instant :=
  let s := trim s
  (rfc3339? s).or ((naive? (char? 'T') s).or (naive? (fun s => some (trimStart s)) s))

def ofString? (s : String) : Option Instant := ofText? s.toList

end Spiderworks.Time
