namespace Spiderworks.Time

structure Date where
  year : Int
  month : Nat
  day : Nat
  deriving DecidableEq, Repr

def isLeapYear (y : Int) : Bool := y % 4 == 0 && (y % 100 != 0 || y % 400 == 0)

def daysInMonth (y : Int) (m : Nat) : Nat :=
  if m = 2 then if isLeapYear y then 29 else 28
  else if m = 4 ∨ m = 6 ∨ m = 9 ∨ m = 11 then 30
  else 31

def Date.isValid (d : Date) : Bool :=
  decide (1 ≤ d.month) && decide (d.month ≤ 12) && decide (1 ≤ d.day) &&
    decide (d.day ≤ daysInMonth d.year d.month)

-- The days before the first of March of a year, counted from that of the year 0. Years are taken to
-- start in March here, so that the leap day is the last of its year.
def daysBeforeYear (y : Int) : Int := 365 * y + y / 4 - y / 100 + y / 400

-- The days before a month, March being month 0.
def daysBeforeMonth (m : Nat) : Nat := (153 * m + 2) / 5

-- The number of days from the first of March of the year 0 to day 0.
def epochDay : Int := 719468

def Date.toDay (d : Date) : Int :=
  let y := if d.month ≤ 2 then d.year - 1 else d.year
  let m := (d.month + 9) % 12
  daysBeforeYear y + daysBeforeMonth m + d.day - 1 - epochDay

-- The year that a day of the count belongs to. The mean length of a year gives it up to one.
def marchYear (n : Int) : Int :=
  let y := n * 400 / 146097
  if n < daysBeforeYear y then y - 1
  else if daysBeforeYear (y + 1) ≤ n then y + 1
  else y

def Date.ofDay (n : Int) : Date :=
  let n := n + epochDay
  let y := marchYear n
  let dayOfYear := (n - daysBeforeYear y).toNat
  let m := (5 * dayOfYear + 2) / 153
  let month := if m < 10 then m + 3 else m - 9
  ⟨if month ≤ 2 then y + 1 else y, month, dayOfYear - daysBeforeMonth m + 1⟩

end Spiderworks.Time
