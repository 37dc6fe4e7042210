import Spiderworks.Text.Digits
import Spiderworks.Time.Calendar

namespace Spiderworks.Time

-- A leap second is the second before it with a thousand million or more nanoseconds.
structure Instant where
  seconds : Int
  nanos : Nat
  deriving DecidableEq, Repr

def secondsPerDay : Int := 86400

def billion : Nat := 1000000000

namespace Instant

def day (t : Instant) : Int := t.seconds / secondsPerDay

def secondOfDay (t : Instant) : Int := t.seconds % secondsPerDay

def isLeap (t : Instant) : Bool := billion ≤ t.nanos

-- The nanoseconds from `b` to `a`. A leap second between their times of day counts.
def since (a b : Instant) : Int :=
  let leap : Int :=
    if b.secondOfDay < a.secondOfDay ∧ b.isLeap then 1
    else if a.secondOfDay < b.secondOfDay ∧ a.isLeap then -1
    else 0
  (a.seconds - b.seconds + leap) * billion + ((a.nanos : Int) - b.nanos)

-- A span that leaves a leap second goes on from the second after it.
def plus (t : Instant) (span : Nat) : Instant :=
  if t.isLeap ∧ t.nanos + span < 2 * billion then ⟨t.seconds, t.nanos + span⟩
  else
    let nanos := (if t.isLeap then t.nanos - billion else t.nanos) + span
    ⟨t.seconds + (nanos / billion : Nat), nanos % billion⟩

-- As few groups of three digits as say everything.
def fraction (nanos : Nat) : List Char :=
  if nanos = 0 then []
  else if nanos % 1000000 = 0 then '.' :: Text.padded 3 (nanos / 1000000)
  else if nanos % 1000 = 0 then '.' :: Text.padded 6 (nanos / 1000)
  else '.' :: Text.padded 9 nanos

-- Years of more than four digits, and those before the year 0, have a sign.
def yearText (y : Int) : List Char :=
  if 0 ≤ y ∧ y ≤ 9999 then Text.padded 4 y.toNat
  else (if y < 0 then '-' else '+') :: Text.padded 4 y.natAbs

def dateText (t : Instant) : List Char :=
  let d := Date.ofDay t.day
  yearText d.year ++ '-' :: Text.padded 2 d.month ++ '-' :: Text.padded 2 d.day

def clockText (t : Instant) : List Char :=
  let s := t.secondOfDay.toNat
  let (second, nanos) := if t.isLeap then (s % 60 + 1, t.nanos - billion) else (s % 60, t.nanos)
  Text.padded 2 (s / 3600) ++ ':' :: Text.padded 2 (s / 60 % 60) ++ ':' :: Text.padded 2 second ++
    fraction nanos

def rfc3339 (t : Instant) : List Char := t.dateText ++ 'T' :: t.clockText ++ "+00:00".toList

end Instant

-- The readings of the time, by the number of those before each.
abbrev Clock := Nat → Instant

-- The readings after the first `n`.
def Clock.after (c : Clock) (n : Nat) : Clock := fun i => c (n + i)

end Spiderworks.Time
