import Mathlib.Data.List.TakeWhile
import Spiderworks.Proofs.Text.Trimmed
import Spiderworks.Proofs.Time.Written

namespace Spiderworks.Time

open Text

variable {t : Instant} {n w : Nat} {c : Char} {s : List Char}
  {between : List Char → Option (List Char)}

-- The text without an offset, with `c` between the date and the time of day.
def Instant.naiveText (t : Instant) (c : Char) : List Char := t.dateText ++ c :: t.clockText

-- ### Numbers

theorem exists_padded_cons (w n : Nat) : ∃ a r, padded w n = a :: r ∧ isDigit a = true := by
  have hne : padded w n ≠ [] := List.append_ne_nil_of_right_ne_nil _ Nat.toDigits_ne_nil
  obtain ⟨a, r, hcons⟩ := List.exists_cons_of_ne_nil hne
  exact ⟨a, r, hcons, isDigit_of_mem_padded (hcons ▸ List.mem_cons_self)⟩

theorem exists_padded_concat (w n : Nat) : ∃ r a, padded w n = r ++ [a] ∧ isDigit a = true := by
  have hne : padded w n ≠ [] := List.append_ne_nil_of_right_ne_nil _ Nat.toDigits_ne_nil
  have hlast := List.dropLast_append_getLast hne
  exact ⟨_, _, hlast.symm, isDigit_of_mem_padded (List.getLast_mem hne)⟩

theorem trimStart_padded (w n : Nat) (s : List Char) :
    trimStart (padded w n ++ s) = padded w n ++ s := by
  obtain ⟨a, r, hcons, ha⟩ := exists_padded_cons w n
  rw [hcons, List.cons_append, trimStart, List.dropWhile_cons_of_neg]
  simp [isBlank_of_isDigit ha]

-- Only as many digits are taken as the number is wide.
theorem number?_padded (hw : 0 < w) (hn : n < 10 ^ w) :
    number? w (padded w n ++ s) = some (n, s) := by
  have hlen := length_padded hw hn
  have hdigits : (padded w n).takeWhile isDigit = padded w n :=
    List.takeWhile_eq_self_iff.mpr fun d => isDigit_of_mem_padded
  have hne : (padded w n).isEmpty = false := by
    rw [List.isEmpty_eq_false_iff, ← List.length_pos_iff, hlen]
    exact hw
  simp only [number?, trimStart_padded, List.take_left' hlen, hdigits, hne, Bool.false_eq_true,
    ↓reduceIte, digitsValue_padded, List.drop_left]

theorem year?_padded (hn : n < 10000) : year? (padded 4 n ++ s) = some ((n : Int), s) := by
  have hnumber := number?_padded (w := 4) (s := s) (by decide) hn
  obtain ⟨a, r, hcons, ha⟩ := exists_padded_cons 4 n
  have htrim := trimStart_padded 4 n s
  rw [hcons, List.cons_append] at hnumber htrim ⊢
  unfold year?
  rw [htrim]
  split
  · rename_i heq
    cases heq
    exact absurd ha (by decide)
  · rename_i heq
    cases heq
    exact absurd ha (by decide)
  · rw [hnumber, Option.map_some]

-- ### The text without an offset

-- What is made of the text behind a date.
def clockOn? (date : Date) (s : List Char) : Option Instant := do
  let (hour, s) ← number? 2 s
  let (minute, s) ← number? 2 (← char? ':' s)
  let (second, s) ← number? 2 (← char? ':' s)
  let (nanos, s) ← nanos? s
  if s.isEmpty ∧ isKnownYear date.year then
    instant? date (← clock? hour minute second nanos) 0
  else none

theorem naive?_dateText (ht : t.IsWritten) (s : List Char) :
    naive? between (t.dateText ++ s) = (between s).bind (clockOn? (Date.ofDay t.day)) := by
  have hyear := ht.year
  obtain ⟨-, hmonth, -, hdayOfMonth⟩ := Date.isValid_iff.mp (Date.isValid_ofDay t.day)
  have hmax := daysInMonth_le (Date.ofDay t.day).year (Date.ofDay t.day).month
  rw [Instant.dateText_eq hyear]
  generalize Date.ofDay t.day = date at *
  have hvalue : ((date.year.toNat : Nat) : Int) = date.year := Int.toNat_of_nonneg hyear.1
  simp only [List.append_assoc, List.cons_append]
  refine (bind_of_eq_some (year?_padded (by omega))).trans ?_
  refine (bind_of_eq_some (char?_cons _ _)).trans ?_
  refine (bind_of_eq_some (number?_padded (by decide) (by omega))).trans ?_
  refine (bind_of_eq_some (char?_cons _ _)).trans ?_
  refine (bind_of_eq_some (number?_padded (by decide) (by omega))).trans ?_
  rw [hvalue]
  rfl

theorem clockOn?_clockText (ht : t.IsWritten) :
    clockOn? (Date.ofDay t.day) t.clockText = some t := by
  have hyear := ht.year
  have hknown : isKnownYear (Date.ofDay t.day).year = true := by
    simp only [isKnownYear, Bool.and_eq_true, decide_eq_true_eq]
    omega
  obtain ⟨second, nanos, hclock, hsecond, hnanos, hread⟩ := clock?_clockText ht
  obtain ⟨hlow, hhigh⟩ := t.secondOfDay_bounds
  have hfraction : nanos? (Instant.fraction nanos) = some (nanos, []) := by
    have hall := nanos?_fraction (s := []) hnanos nofun
    rwa [List.append_nil] at hall
  rw [hclock]
  refine (bind_of_eq_some (number?_padded (by decide) (by omega))).trans ?_
  refine (bind_of_eq_some (char?_cons _ _)).trans ?_
  refine (bind_of_eq_some (number?_padded (by decide) (by omega))).trans ?_
  refine (bind_of_eq_some (char?_cons _ _)).trans ?_
  refine (bind_of_eq_some (number?_padded (by decide) hsecond)).trans ?_
  refine (bind_of_eq_some hfraction).trans ?_
  refine (if_pos ⟨rfl, hknown⟩).trans ((bind_of_eq_some hread).trans ?_)
  rw [instant?_ofDay, Int.sub_zero]

theorem naive?_naiveText (ht : t.IsWritten)
    (hbetween : between (c :: t.clockText) = some t.clockText) :
    naive? between (t.naiveText c) = some t := by
  rw [Instant.naiveText, naive?_dateText ht, hbetween, Option.bind_some, clockOn?_clockText ht]

-- No offset follows.
theorem rfc3339?_naiveText (ht : t.IsWritten) (hc : c = 'T' ∨ c = ' ') :
    rfc3339? (t.naiveText c) = none := by
  have hnone := rfc3339?_text (s := []) ht (hc.imp_right .inr) nofun
  rw [List.append_nil] at hnone
  exact hnone

-- The form with a `T` is tried first, and does not fit a text with a blank.
theorem naive?_or_naiveText (ht : t.IsWritten) (hc : c = 'T' ∨ c = ' ') :
    (naive? (char? 'T') (t.naiveText c)).or
      (naive? (fun s => some (trimStart s)) (t.naiveText c)) = some t := by
  rcases hc with rfl | rfl
  · rw [naive?_naiveText ht (char?_cons _ _), Option.some_or]
  · have hblank : trimStart (' ' :: t.clockText) = t.clockText := by
      obtain ⟨second, nanos, hclock, -⟩ := clock?_clockText ht
      rw [hclock]
      exact trimStart_padded 2 _ _
    have hnone : naive? (char? 'T') (t.naiveText ' ') = none := by
      rw [Instant.naiveText, naive?_dateText ht]
      rfl
    rw [hnone, Option.none_or]
    exact naive?_naiveText ht (congrArg some hblank)

-- ### Blanks around a text

theorem exists_fraction_concat (second nanos : Nat) : ∃ r a,
    padded 2 second ++ Instant.fraction nanos = r ++ [a] ∧ isDigit a = true := by
  have hpadded (w n : Nat) : ∃ r a, padded 2 second ++ '.' :: padded w n = r ++ [a] ∧
      isDigit a = true := by
    obtain ⟨r, a, hlast, ha⟩ := exists_padded_concat w n
    exact ⟨padded 2 second ++ '.' :: r, a, by rw [hlast]; simp, ha⟩
  unfold Instant.fraction
  by_cases hzero : nanos = 0
  · rw [if_pos hzero, List.append_nil]
    exact exists_padded_concat 2 second
  · by_cases hmillis : nanos % 1000000 = 0
    · rw [if_neg hzero, if_pos hmillis]
      exact hpadded 3 _
    · by_cases hmicros : nanos % 1000 = 0
      · rw [if_neg hzero, if_neg hmillis, if_pos hmicros]
        exact hpadded 6 _
      · rw [if_neg hzero, if_neg hmillis, if_neg hmicros]
        exact hpadded 9 _

theorem exists_clockText_concat (ht : t.IsWritten) :
    ∃ r a, t.clockText = r ++ [a] ∧ isDigit a = true := by
  obtain ⟨second, nanos, hclock, -⟩ := clock?_clockText ht
  obtain ⟨r, a, hlast, ha⟩ := exists_fraction_concat second nanos
  refine ⟨padded 2 (t.secondOfDay.toNat / 3600) ++ ':' ::
    (padded 2 (t.secondOfDay.toNat / 60 % 60) ++ ':' :: r), a, ?_, ha⟩
  rw [hclock, hlast]
  simp only [List.append_assoc, List.cons_append]

-- A text that begins with a date and ends with anything but a blank.
theorem trim_dateText (ht : t.IsWritten) {a : Char} (ha : isBlank a = false) (s : List Char) :
    trim (t.dateText ++ (s ++ [a])) = t.dateText ++ (s ++ [a]) := by
  obtain ⟨d, r, hcons, hd⟩ := exists_padded_cons 4 (Date.ofDay t.day).year.toNat
  have hdate : ∃ rest, t.dateText = d :: rest := by
    rw [Instant.dateText_eq ht.year, hcons]
    exact ⟨_, rfl⟩
  obtain ⟨rest, hrest⟩ := hdate
  rw [hrest, ← List.append_assoc]
  exact trim_of_ends (t := d :: rest ++ s) (isBlank_of_isDigit hd) ha rfl

theorem trim_naiveText (ht : t.IsWritten) (c : Char) : trim (t.naiveText c) = t.naiveText c := by
  obtain ⟨r, a, hlast, ha⟩ := exists_clockText_concat ht
  rw [Instant.naiveText, hlast, ← List.cons_append]
  exact trim_dateText ht (isBlank_of_isDigit ha) (c :: r)

-- ### The whole

theorem ofString?_surrounded {before after : String} (hbefore : isBlankText before.toList = true)
    (hafter : isBlankText after.toList = true) (s : List Char) :
    ofString? (before ++ String.ofList s ++ after) = ofText? s := by
  rw [ofString?, String.toList_append, String.toList_append, String.toList_ofList, ofText?,
    trim_surrounded hbefore s hafter, ofText?]

-- An instant is read from its text with an offset, and from its two texts without one, whatever
-- blanks stand around them.
theorem reads_back (t : Instant) (ht : t.IsWritten) (before after : String)
    (hbefore : isBlankText before.toList = true) (hafter : isBlankText after.toList = true) :
    ofString? (before ++ String.ofList t.rfc3339 ++ after) = some t ∧
    ofString? (before ++ String.ofList (t.naiveText 'T') ++ after) = some t ∧
    ofString? (before ++ String.ofList (t.naiveText ' ') ++ after) = some t := by
  have naive (c : Char) (hc : c = 'T' ∨ c = ' ') :
      ofString? (before ++ String.ofList (t.naiveText c) ++ after) = some t := by
    rw [ofString?_surrounded hbefore hafter, ofText?, trim_naiveText ht,
      rfc3339?_naiveText ht hc, Option.none_or, naive?_or_naiveText ht hc]
  refine ⟨?_, naive 'T' (.inl rfl), naive ' ' (.inr rfl)⟩
  rw [ofString?_surrounded hbefore hafter, ofText?, trim_rfc3339 ht, rfc3339?_rfc3339 ht,
    Option.some_or]

-- Half a second into the leap second at the end of 2016.
def inLeapSecond : Instant := ⟨1483228799, 1500000000⟩

theorem reads_back_leap : inLeapSecond.IsWritten ∧
    inLeapSecond.rfc3339 = "2016-12-31T23:59:60.500+00:00".toList ∧
    inLeapSecond.naiveText ' ' = "2016-12-31 23:59:60.500".toList ∧
    isBlankText "\u2003\n".toList = true ∧ isBlankText " \r".toList = true ∧
    ofString? ("\u2003\n" ++ String.ofList inLeapSecond.rfc3339 ++ " \r") = some inLeapSecond ∧
    ofString? ("\u2003\n" ++ String.ofList (inLeapSecond.naiveText 'T') ++ " \r") =
      some inLeapSecond ∧
    ofString? ("\u2003\n" ++ String.ofList (inLeapSecond.naiveText ' ') ++ " \r") =
      some inLeapSecond := by
  have hwritten : inLeapSecond.IsWritten := ⟨by decide, by decide, by decide⟩
  have hbefore : isBlankText "\u2003\n".toList = true := by decide
  have hafter : isBlankText " \r".toList = true := by decide
  exact ⟨hwritten, by decide, by decide, hbefore, hafter,
    reads_back inLeapSecond hwritten "\u2003\n" " \r" hbefore hafter⟩

end Spiderworks.Time
