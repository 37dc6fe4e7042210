import Spiderworks.Decimal.Parts
import Spiderworks.Json.Reader
import Spiderworks.Time.Reader

namespace Spiderworks.RateLimit

open Spiderworks.Time

inductive Decision where
  | allow
  | deny (remaining : Nat) (next : Instant)
  deriving DecidableEq, Repr

def minuteNanos : Nat := 60 * billion

-- The limit is a function of the stored time of the last run; recording the run is what moves it.
-- An interval of 0 is no limit, and neither is a time that cannot be read. A time in the future
-- counts as the current one.
def check (lastRun : Option String) (minutes : Nat) (now : Instant) : Decision :=
  if minutes = 0 then .allow
  else
    match lastRun.bind ofString? with
    | none => .allow
    | some last =>
      let elapsed := (now.since last).toNat
      let interval := minutes * minuteNanos
      if interval ≤ elapsed then .allow
      else .deny (interval - elapsed) (now.plus (interval - elapsed))

-- Seconds, cut to whole milliseconds.
def remainingSeconds (nanos : Nat) : Float := Decimal.ofWhole false (nanos / 1000000) / 1000.0

-- ### The interval setting

def settingKey : String := "system"

def intervalField : String := "apiCallIntervalMinutes"

def isMinutes (n : Nat) : Option Nat := if n < Nat.pow 2 32 then some n else none

-- Digits with an optional plus sign.
def minutesOfText? (s : List Char) : Option Nat :=
  let ds := match s with
    | '+' :: r => r
    | r => r
  if !ds.isEmpty && ds.all Text.isDigit then isMinutes (Text.digitsValue ds) else none

-- A number of minutes; what stands behind its point does not count.
def minutesOfNumber? : Number → Option Nat
  | .whole n => if 0 ≤ n then isMinutes n.toNat else none
  | .double x =>
    if 0.0 ≤ x then (Decimal.truncate? x).bind fun n => isMinutes n.toNat else none

def minutesOf? : Json → Option Nat
  | .num n => minutesOfNumber? n
  | .str s => minutesOfText? (Text.trim s.toList)
  | _ => none

def intervalOf (setting : Option String) (fallback : Nat) : Nat :=
  ((setting.bind Json.read?).bind fun v => (v.get? intervalField).bind minutesOf?).getD fallback

end Spiderworks.RateLimit
