import Mathlib.Tactic.IntervalCases
import Spiderworks.Proofs.Text.Digits
import Spiderworks.Time.Calendar
import Spiderworks.Time.Reader

namespace Spiderworks.Time

section

variable {y : Int} {d : Nat}

-- ### Years that start in March

-- The mean length of a year misses the year of a day by one at most.
theorem daysBeforeYear_mean (n : Int) :
    daysBeforeYear (n * 400 / 146097 - 1) ≤ n ∧ n < daysBeforeYear (n * 400 / 146097 + 2) := by
  have hlow : 146097 * (n * 400 / 146097) ≤ n * 400 := by omega
  have hhigh : n * 400 < 146097 * (n * 400 / 146097 + 1) := by omega
  generalize n * 400 / 146097 = y at hlow hhigh
  unfold daysBeforeYear
  omega

theorem daysBeforeYear_marchYear (n : Int) :
    daysBeforeYear (marchYear n) ≤ n ∧ n < daysBeforeYear (marchYear n + 1) := by
  obtain ⟨hlow, hhigh⟩ := daysBeforeYear_mean n
  unfold marchYear
  generalize n * 400 / 146097 = y at hlow hhigh ⊢
  dsimp only
  by_cases hbefore : n < daysBeforeYear y
  · rw [if_pos hbefore]
    exact ⟨hlow, by rwa [Int.sub_add_cancel]⟩
  · rw [if_neg hbefore]
    by_cases hafter : daysBeforeYear (y + 1) ≤ n
    · rw [if_pos hafter]
      exact ⟨hafter, by rwa [Int.add_assoc]⟩
    · rw [if_neg hafter]
      omega

theorem daysBeforeYear_succ (y : Int) :
    daysBeforeYear (y + 1) = daysBeforeYear y + if isLeapYear (y + 1) then 366 else 365 := by
  unfold daysBeforeYear isLeapYear
  by_cases h4 : (y + 1) % 4 = 0 <;> by_cases h100 : (y + 1) % 100 = 0 <;>
    by_cases h400 : (y + 1) % 400 = 0 <;> simp [h4, h100, h400] <;> omega

-- Only a year that ends with a leap day has 366 days.
structure IsDayOfYear (y : Int) (d : Nat) : Prop where
  lt : d < 366
  leap : d = 365 → isLeapYear (y + 1) = true

-- ### Months

-- The month of a day of the year, March being month 0.
def monthOf (d : Nat) : Nat := (5 * d + 2) / 153

theorem daysBeforeMonth_le (d : Nat) : daysBeforeMonth (monthOf d) ≤ d := by
  unfold daysBeforeMonth monthOf
  omega

theorem lt_daysBeforeMonth (d : Nat) : d < daysBeforeMonth (monthOf d + 1) := by
  unfold daysBeforeMonth monthOf
  omega

theorem monthOf_lt (hd : d < 366) : monthOf d < 12 := by
  unfold monthOf
  omega

-- ### Dates

-- January and February belong to the next year of the calendar.
def dateOf (y : Int) (d : Nat) : Date :=
  let m := monthOf d
  ⟨if m < 10 then y else y + 1, if m < 10 then m + 3 else m - 9, d - daysBeforeMonth m + 1⟩

theorem Date.ofDay_eq (n : Int) : ∃ y d, IsDayOfYear y d ∧
    n + epochDay = daysBeforeYear y + d ∧ Date.ofDay n = dateOf y d := by
  obtain ⟨hlow, hhigh⟩ := daysBeforeYear_marchYear (n + epochDay)
  generalize hy : marchYear (n + epochDay) = y at hlow hhigh
  rw [daysBeforeYear_succ] at hhigh
  have hd : (n + epochDay - daysBeforeYear y).toNat < 366 := by split at hhigh <;> omega
  refine ⟨y, (n + epochDay - daysBeforeYear y).toNat, ⟨hd, ?_⟩, by omega, ?_⟩
  · intro hlast
    by_contra hleap
    rw [if_neg hleap] at hhigh
    omega
  · simp only [Date.ofDay, dateOf, hy, ← monthOf.eq_1]
    generalize (n + epochDay - daysBeforeYear y).toNat = d at hd ⊢
    have hlt := monthOf_lt hd
    by_cases hm : monthOf d < 10
    · have hmonth : ¬monthOf d + 3 ≤ 2 := by omega
      simp only [hm, hmonth, ↓reduceIte]
    · have hmonth : monthOf d - 9 ≤ 2 := by omega
      simp only [hm, hmonth, ↓reduceIte]

theorem Date.isValid_iff {d : Date} : d.isValid = true ↔
    1 ≤ d.month ∧ d.month ≤ 12 ∧ 1 ≤ d.day ∧ d.day ≤ daysInMonth d.year d.month := by
  simp only [Date.isValid, Bool.and_eq_true, decide_eq_true_eq, and_assoc]

-- The leap day is the one day that the last month has only in some years.
theorem isValid_dateOf (h : IsDayOfYear y d) : (dateOf y d).isValid = true := by
  have hm := monthOf_lt h.lt
  have hbefore := lt_daysBeforeMonth d
  have hafter := daysBeforeMonth_le d
  rw [Date.isValid_iff]
  simp only [dateOf]
  generalize monthOf d = m at hm hbefore hafter
  refine ⟨by split <;> omega, by split <;> omega, by omega, ?_⟩
  by_cases hlast : d = 365
  · have hm : m = 11 := by
      unfold daysBeforeMonth at hbefore hafter
      omega
    simp [daysInMonth, daysBeforeMonth, hm, hlast, h.leap hlast]
  · have hlt := h.lt
    interval_cases m <;> simp [daysInMonth, daysBeforeMonth] at hbefore ⊢ <;> try omega
    split <;> omega

theorem toDay_dateOf (h : IsDayOfYear y d) :
    (dateOf y d).toDay = daysBeforeYear y + d - epochDay := by
  have hlt := monthOf_lt h.lt
  have hafter := daysBeforeMonth_le d
  simp only [Date.toDay, dateOf]
  by_cases hm : monthOf d < 10
  · have hspring : ¬monthOf d + 3 ≤ 2 := by omega
    have hback : (monthOf d + 3 + 9) % 12 = monthOf d := by omega
    simp only [hm, ↓reduceIte, hspring, hback]
    omega
  · have hwinter : monthOf d - 9 ≤ 2 := by omega
    have hback : (monthOf d - 9 + 9) % 12 = monthOf d := by omega
    simp only [hm, ↓reduceIte, hwinter, hback, Int.add_sub_cancel]
    omega

theorem Date.isValid_ofDay (n : Int) : (Date.ofDay n).isValid = true := by
  obtain ⟨y, d, hd, -, hdate⟩ := Date.ofDay_eq n
  rw [hdate]
  exact isValid_dateOf hd

theorem Date.toDay_ofDay (n : Int) : (Date.ofDay n).toDay = n := by
  obtain ⟨y, d, hd, hn, hdate⟩ := Date.ofDay_eq n
  rw [hdate, toDay_dateOf hd]
  omega

theorem daysInMonth_le (y : Int) (m : Nat) : daysInMonth y m ≤ 31 := by
  unfold daysInMonth
  split
  · split <;> omega
  · split <;> omega

end

open Text

variable {α β : Type} {t : Instant} {n w : Nat} {c : Char} {s : List Char}

-- ### Pieces

theorem twoDigits?_padded (hn : n < 100) : twoDigits? (padded 2 n ++ s) = some (n, s) := by
  have hlen : (padded 2 n).length = 2 := length_padded (by decide) hn
  have hvalue := digitsValue_padded 2 n
  have hdigits : ∀ c ∈ padded 2 n, isDigit c = true := fun c => isDigit_of_mem_padded
  obtain ⟨a, b, hab⟩ := List.length_eq_two.mp hlen
  rw [hab] at hvalue hdigits ⊢
  simp [twoDigits?, hdigits, hvalue]

-- A year of four digits is read in two halves.
theorem twoDigits?_year (hn : n < 10000) : ∃ century year rest,
    twoDigits? (padded 4 n ++ s) = some (century, rest) ∧ twoDigits? rest = some (year, s) ∧
      century * 100 + year = n := by
  have hlen : (padded 4 n).length = 4 := length_padded (by decide) hn
  have hvalue := digitsValue_padded 4 n
  have hdigits : ∀ c ∈ padded 4 n, isDigit c = true := fun c => isDigit_of_mem_padded
  obtain ⟨a, b, c, d, habcd⟩ : ∃ a b c d, padded 4 n = [a, b, c, d] := by
    match padded 4 n, hlen with
    | [a, b, c, d], _ => exact ⟨a, b, c, d, rfl⟩
  rw [habcd] at hvalue hdigits ⊢
  refine ⟨digitsValue [a, b], digitsValue [c, d], c :: d :: s, ?_, ?_, ?_⟩
  · simp [twoDigits?, hdigits]
  · simp [twoDigits?, hdigits]
  · rw [digitsValue_pairs, hvalue]

theorem char?_cons (c : Char) (s : List Char) : char? c (c :: s) = some s := by
  simp [char?]

-- The digits of a fraction end here.
def EndsFraction (s : List Char) : Prop := ∀ c, s.head? = some c → isDigit c = false ∧ c ≠ '.'

theorem nanos?_padded (hw : 0 < w) (hw' : w ≤ 9) (hn : n < 10 ^ w) (hs : EndsFraction s) :
    nanos? ('.' :: padded w n ++ s) = some (n * Nat.pow 10 (9 - w), s) := by
  have hlen := length_padded hw hn
  have hdigits : ∀ d ∈ padded w n, isDigit d = true := fun d => isDigit_of_mem_padded
  have hnone : s.takeWhile isDigit = [] ∧ s.dropWhile isDigit = s := by
    cases s with
    | nil => exact ⟨rfl, rfl⟩
    | cons c s => simp [(hs c rfl).1]
  have htake : (padded w n ++ s).takeWhile isDigit = padded w n := by
    rw [List.takeWhile_append_of_pos hdigits, hnone.1, List.append_nil]
  have hdrop : (padded w n ++ s).dropWhile isDigit = s := by
    rw [List.dropWhile_append_of_pos hdigits, hnone.2]
  have hne : (padded w n).isEmpty = false := by
    rw [List.isEmpty_eq_false_iff, ← List.length_pos_iff, hlen]
    exact hw
  have hkept : (padded w n).take 9 = padded w n := List.take_of_length_le (by omega)
  simp only [nanos?, List.cons_append, htake, hdrop, hne, hkept, hlen, digitsValue_padded,
    Bool.false_eq_true, ↓reduceIte]

-- The digits that a fraction leaves out are zeros.
theorem nanos?_fraction (hn : n < billion) (hs : EndsFraction s) :
    nanos? (Instant.fraction n ++ s) = some (n, s) := by
  unfold Instant.fraction billion at *
  by_cases hzero : n = 0
  · cases s with
    | nil => simp [hzero, nanos?]
    | cons c s => simp [hzero, nanos?, (hs c rfl).2]
  · by_cases hmillis : n % 1000000 = 0
    · simp only [hzero, hmillis, ↓reduceIte]
      rw [nanos?_padded (by decide) (by decide) (by omega) hs]
      simp
      omega
    · by_cases hmicros : n % 1000 = 0
      · simp only [hzero, hmillis, hmicros, ↓reduceIte]
        rw [nanos?_padded (by decide) (by decide) (by omega) hs]
        simp
        omega
      · simp only [hzero, hmillis, hmicros, ↓reduceIte]
        rw [nanos?_padded (by decide) (by decide) (by omega) hs]
        simp

-- ### Instants

-- The instants that have a text of the usual form.
structure Instant.IsWritten (t : Instant) : Prop where
  year : 0 ≤ (Date.ofDay t.day).year ∧ (Date.ofDay t.day).year ≤ 9999
  nanos : t.nanos < 2 * billion
  leap : t.isLeap = true → t.secondOfDay % 60 = 59

theorem Instant.secondOfDay_bounds (t : Instant) : 0 ≤ t.secondOfDay ∧ t.secondOfDay < 86400 := by
  unfold secondOfDay secondsPerDay
  omega

theorem Instant.day_add_secondOfDay (t : Instant) :
    t.day * secondsPerDay + t.secondOfDay = t.seconds := by
  unfold day secondOfDay secondsPerDay
  omega

-- A leap second is written as second 60, with the nanoseconds that are left of it.
theorem clock?_clockText (ht : t.IsWritten) : ∃ second nanos,
    t.clockText = padded 2 (t.secondOfDay.toNat / 3600) ++ ':' ::
      (padded 2 (t.secondOfDay.toNat / 60 % 60) ++ ':' ::
        (padded 2 second ++ Instant.fraction nanos)) ∧
    second < 100 ∧ nanos < billion ∧
    clock? (t.secondOfDay.toNat / 3600) (t.secondOfDay.toNat / 60 % 60) second nanos =
      some (t.secondOfDay.toNat, t.nanos) := by
  obtain ⟨hlow, hhigh⟩ := t.secondOfDay_bounds
  have hnanos := ht.nanos
  by_cases hl : t.isLeap = true
  · have hsecond : t.secondOfDay.toNat % 60 = 59 := by
      have := ht.leap hl
      omega
    have hbillion : billion ≤ t.nanos := by simpa [Instant.isLeap] using hl
    refine ⟨t.secondOfDay.toNat % 60 + 1, t.nanos - billion, ?_, by omega, by omega, ?_⟩
    · simp only [Instant.clockText, hl, ↓reduceIte, List.append_assoc, List.cons_append]
    · unfold clock?
      rw [if_pos (by omega)]
      simp [hsecond]
      omega
  · have hbillion : t.nanos < billion := by simpa [Instant.isLeap] using hl
    refine ⟨t.secondOfDay.toNat % 60, t.nanos, ?_, by omega, hbillion, ?_⟩
    · simp only [Instant.clockText, hl, Bool.false_eq_true, ↓reduceIte, List.append_assoc,
        List.cons_append]
    · have hsecond : t.secondOfDay.toNat % 60 ≠ 60 := by omega
      unfold clock?
      rw [if_pos (by omega)]
      simp [hsecond]
      omega

theorem Instant.dateText_eq
    (hyear : 0 ≤ (Date.ofDay t.day).year ∧ (Date.ofDay t.day).year ≤ 9999) :
    t.dateText = padded 4 (Date.ofDay t.day).year.toNat ++ '-' ::
      (padded 2 (Date.ofDay t.day).month ++ '-' :: padded 2 (Date.ofDay t.day).day) := by
  simp only [dateText, yearText, hyear, and_self, ↓reduceIte, List.append_assoc, List.cons_append]

theorem Instant.rfc3339_eq (t : Instant) :
    t.rfc3339 = t.dateText ++ 'T' :: (t.clockText ++ ['+', '0', '0', ':', '0', '0']) := by
  have hoffset : "+00:00".toList = ['+', '0', '0', ':', '0', '0'] := by simp
  rw [rfc3339, hoffset, List.append_assoc, List.cons_append]

-- What is read hands its rest on to the next piece.
theorem bind_of_eq_some {o : Option α} {a : α} {f : α → Option β} (h : o = some a) :
    (o >>= f) = f a := by
  rw [h]
  rfl

-- What the pieces of a date and of a time of day make together.
theorem instant?_ofDay (t : Instant) (offset : Int) :
    instant? (Date.ofDay t.day) (t.secondOfDay.toNat, t.nanos) offset =
      some ⟨t.seconds - offset, t.nanos⟩ := by
  rw [instant?, if_pos (Date.isValid_ofDay t.day), Date.toDay_ofDay,
    Int.toNat_of_nonneg t.secondOfDay_bounds.1, t.day_add_secondOfDay]

-- An offset has to follow, and is taken off.
theorem rfc3339?_text (ht : t.IsWritten) (hc : c = 'T' ∨ c = 't' ∨ c = ' ')
    (hs : EndsFraction s) : rfc3339? (t.dateText ++ c :: (t.clockText ++ s)) =
      (offset? s).map fun offset => ⟨t.seconds - offset, t.nanos⟩ := by
  have hwhole := instant?_ofDay t
  have hyear := ht.year
  obtain ⟨-, hmonth, -, hdayOfMonth⟩ := Date.isValid_iff.mp (Date.isValid_ofDay t.day)
  have hmax := daysInMonth_le (Date.ofDay t.day).year (Date.ofDay t.day).month
  rw [Instant.dateText_eq hyear]
  generalize Date.ofDay t.day = date at *
  obtain ⟨second, nanos, hclock, hsecond, hnanos, hread⟩ := clock?_clockText ht
  obtain ⟨hlow, hhigh⟩ := t.secondOfDay_bounds
  obtain ⟨century, year, rest, hcentury, hrest, hvalue⟩ := twoDigits?_year (n := date.year.toNat)
    (s := '-' :: (padded 2 date.month ++ '-' :: (padded 2 date.day ++ c :: (t.clockText ++ s))))
    (by omega)
  simp only [List.append_assoc, List.cons_append]
  -- the date
  refine (bind_of_eq_some hcentury).trans ?_
  refine (bind_of_eq_some hrest).trans ?_
  refine (bind_of_eq_some (char?_cons _ _)).trans ?_
  refine (bind_of_eq_some (twoDigits?_padded (by omega))).trans ?_
  refine (bind_of_eq_some (char?_cons _ _)).trans ?_
  refine (bind_of_eq_some (twoDigits?_padded (by omega))).trans ?_
  refine (if_pos hc).trans ?_
  -- the time of day
  simp only [hclock, List.append_assoc, List.cons_append]
  refine (bind_of_eq_some (twoDigits?_padded (by omega))).trans ?_
  refine (bind_of_eq_some (char?_cons _ _)).trans ?_
  refine (bind_of_eq_some (twoDigits?_padded (by omega))).trans ?_
  refine (bind_of_eq_some (char?_cons _ _)).trans ?_
  refine (bind_of_eq_some (twoDigits?_padded hsecond)).trans ?_
  refine (bind_of_eq_some (nanos?_fraction hnanos hs)).trans ?_
  cases hoffset : offset? s with
  | none => rfl
  | some offset =>
      refine (bind_of_eq_some rfl).trans ((bind_of_eq_some hread).trans ?_)
      have hdate : (⟨century * 100 + year, date.month, date.day⟩ : Date) = date := by
        have hyears : (century : Int) * 100 + year = date.year := by omega
        rw [hyears]
      rw [hdate, hwhole]
      rfl

theorem rfc3339?_rfc3339 (ht : t.IsWritten) : rfc3339? t.rfc3339 = some t := by
  have hoffset : offset? ['+', '0', '0', ':', '0', '0'] = some 0 := by decide
  have hends : EndsFraction ['+', '0', '0', ':', '0', '0'] := by
    rintro _ ⟨⟩
    decide
  rw [t.rfc3339_eq, rfc3339?_text ht (.inl rfl) hends, hoffset, Option.map_some, Int.sub_zero]

-- There is nothing to trim.
theorem trim_rfc3339 (ht : t.IsWritten) : trim t.rfc3339 = t.rfc3339 := by
  have hyear := ht.year
  have hlen : (padded 4 (Date.ofDay t.day).year.toNat).length = 4 :=
    length_padded (by decide) (by omega)
  obtain ⟨a, s, hs⟩ := List.exists_cons_of_length_pos (l := padded 4 (Date.ofDay t.day).year.toNat)
    (by omega)
  have ha : isDigit a = true := isDigit_of_mem_padded (w := 4) (hs ▸ List.mem_cons_self)
  rw [t.rfc3339_eq, Instant.dateText_eq hyear, hs]
  refine trim_of_ends (d := '0') (t := a :: s ++ '-' :: (padded 2 (Date.ofDay t.day).month ++
    '-' :: (padded 2 (Date.ofDay t.day).day ++ 'T' :: (t.clockText ++ ['+', '0', '0', ':', '0']))))
    (isBlank_of_isDigit ha) (by decide) ?_
  simp only [List.append_eq, List.append_assoc, List.cons_append, List.nil_append]

theorem ofString?_rfc3339 (ht : t.IsWritten) :
    ofString? (String.ofList t.rfc3339) = some t := by
  rw [ofString?, String.toList_ofList, ofText?, trim_rfc3339 ht, rfc3339?_rfc3339 ht]
  rfl

end Spiderworks.Time
