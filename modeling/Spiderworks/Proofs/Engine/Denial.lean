import Spiderworks.Proofs.Time.Span

namespace Spiderworks.RateLimit

open Time (Instant ofString? billion)

variable {lastRun : Option String} {minutes remaining : Nat} {now last t : Instant}

theorem interval_pos (hm : minutes ≠ 0) : 0 < minutes * minuteNanos :=
  Nat.mul_pos (Nat.pos_of_ne_zero hm) (by decide)

theorem check_of_last (hm : minutes ≠ 0) (hlast : lastRun.bind ofString? = some last) :
    check lastRun minutes now = if minutes * minuteNanos ≤ (now.since last).toNat then .allow
      else .deny (minutes * minuteNanos - (now.since last).toNat)
        (now.plus (minutes * minuteNanos - (now.since last).toNat)) := by
  rw [check, if_neg hm, hlast]

theorem check_eq_allow_iff (hm : minutes ≠ 0) (hlast : lastRun.bind ofString? = some last) :
    check lastRun minutes now = .allow ↔ (minutes * minuteNanos : Nat) ≤ now.since last := by
  have hpos := interval_pos hm
  rw [check_of_last hm hlast]
  split
  · exact iff_of_true rfl (by omega)
  · exact iff_of_false nofun (by omega)

-- A denial: the interval is not over, and what is left of it is still to be waited.
structure Denies (lastRun : Option String) (minutes : Nat) (now last t : Instant)
    (remaining : Nat) : Prop where
  limited : minutes ≠ 0
  stored : lastRun.bind ofString? = some last
  short : (now.since last).toNat < minutes * minuteNanos
  rest : remaining = minutes * minuteNanos - (now.since last).toNat
  next : t = now.plus remaining

theorem denies (h : check lastRun minutes now = .deny remaining t) :
    ∃ last, Denies lastRun minutes now last t remaining := by
  by_cases hm : minutes = 0
  · rw [check, if_pos hm] at h
    cases h
  · cases hlast : lastRun.bind ofString? with
    | none =>
        rw [check, if_neg hm, hlast] at h
        cases h
    | some last =>
        rw [check_of_last hm hlast] at h
        split at h
        · cases h
        · rename_i hshort
          cases h
          exact ⟨last, hm, hlast, Nat.lt_of_not_le hshort, rfl, rfl⟩

namespace Denies

-- A time after the next one that has left the leap second which the clock may have shown.
theorem total_plus (h : Denies lastRun minutes now last t remaining) (span : Nat)
    (hspan : now.leaps * billion ≤ span) :
    (t.plus span).isLeap = false ∧
      (t.plus span).total = now.total + remaining + span - now.leaps * billion := by
  have hleaves : now.isLeap = true → 2 * billion ≤ now.nanos + (remaining + span) := by
    intro hleap
    rw [Instant.leaps_of_isLeap hleap] at hspan
    simp only [Instant.isLeap, decide_eq_true_eq] at hleap
    omega
  rw [h.next, Instant.plus_plus]
  refine ⟨Instant.isLeap_plus hleaves, ?_⟩
  rw [Instant.total_plus hleaves]
  omega

theorem allow_of_le (h : Denies lastRun minutes now last t remaining) {t' : Instant}
    (hle : t.plus ((last.since now).toNat +
      (now.leaps + last.leaps + t'.leaps) * billion) ≤ t') :
    check lastRun minutes t' = .allow := by
  obtain ⟨hleap, htotal⟩ := h.total_plus ((last.since now).toNat +
    (now.leaps + last.leaps + t'.leaps) * billion) (by unfold billion; omega)
  have hlater := Instant.total_le hleap hle
  have helapsed := Instant.since_le now last
  have hahead := Instant.le_since last now
  have hthen := Instant.le_since t' last
  have hshort := h.short
  have hrest := h.rest
  rw [check_eq_allow_iff h.limited h.stored]
  unfold billion at *
  omega

-- Without leap seconds the caller is let in from then on, and not before.
theorem allow_iff (h : Denies lastRun minutes now last t remaining) {t' : Instant}
    (hnow : now.isLeap = false) (hlast : last.isLeap = false) (ht' : t'.isLeap = false) :
    check lastRun minutes t' = .allow ↔ t.plus (last.since now).toNat ≤ t' := by
  obtain ⟨hleap, htotal⟩ := h.total_plus (last.since now).toNat
    (by simp [Instant.leaps_eq_zero.mpr hnow])
  have hshort := h.short
  have hrest := h.rest
  rw [Instant.leaps_eq_zero.mpr hnow] at htotal
  rw [Instant.since_eq hnow hlast] at hshort hrest
  rw [check_eq_allow_iff h.limited h.stored, Instant.since_eq ht' hlast,
    Instant.le_iff_total hleap ht', htotal, Instant.since_eq hlast hnow]
  omega

theorem plus_zero (h : Denies lastRun minutes now last t remaining) : t.plus 0 = t := by
  rw [h.next, Instant.plus_plus, Nat.add_zero]

end Denies

-- A caller who is denied is let in at the latest when the next time has come and, after it, as
-- much time has gone by as the stored time lay ahead, and a second for each of the three that is a
-- leap second. When none of them is, this is exactly when the caller is let in; and if the stored
-- time did not lie ahead, it is the next time itself.
theorem allow_from_next (h : check lastRun minutes now = .deny remaining t) :
    ∃ last, lastRun.bind ofString? = some last ∧
      (∀ t', t.plus ((last.since now).toNat +
          (now.leaps + last.leaps + t'.leaps) * billion) ≤ t' →
        check lastRun minutes t' = .allow) ∧
      (now.isLeap = false → last.isLeap = false → ∀ t', t'.isLeap = false →
        (check lastRun minutes t' = .allow ↔ t.plus (last.since now).toNat ≤ t') ∧
        (last ≤ now → (check lastRun minutes t' = .allow ↔ t ≤ t'))) := by
  obtain ⟨last, hdenies⟩ := denies h
  refine ⟨last, hdenies.stored, fun t' => hdenies.allow_of_le, fun hnow hlast t' ht' => ?_⟩
  have hiff := hdenies.allow_iff hnow hlast ht'
  refine ⟨hiff, fun hle => ?_⟩
  have hahead : (last.since now).toNat = 0 := by
    have hspan := Instant.since_nonneg hnow hlast hle
    rw [Instant.since_eq hnow hlast] at hspan
    rw [Instant.since_eq hlast hnow]
    omega
  rw [hiff, hahead, hdenies.plus_zero]

def noon : Instant := ⟨1714564800, 0⟩

-- Ten minutes after noon.
def aheadOfNoon : String := "2024-05-01T12:10:00+00:00"

theorem ofString?_aheadOfNoon : ofString? aheadOfNoon = some ⟨1714565400, 0⟩ := by rfl

theorem denied_at_noon :
    check (some aheadOfNoon) 5 noon = .deny (300 * billion) ⟨1714565100, 0⟩ := by
  rfl

-- Who is denied at noon is let in at a quarter past, and not a nanosecond before.
theorem allow_from_next_ahead :
    check (some aheadOfNoon) 5 noon = .deny (300 * billion) ⟨1714565100, 0⟩ ∧
    check (some aheadOfNoon) 5 ⟨1714565700, 0⟩ = .allow ∧
    check (some aheadOfNoon) 5 ⟨1714565699, 999999999⟩ ≠ .allow := by
  obtain ⟨last, hlast, -, hexact⟩ := allow_from_next denied_at_noon
  obtain rfl := Option.some.inj (ofString?_aheadOfNoon.symm.trans hlast)
  refine ⟨denied_at_noon, (hexact rfl rfl _ rfl).1.mpr (by decide), fun hallow => ?_⟩
  exact absurd ((hexact rfl rfl _ rfl).1.mp hallow) (by decide)

-- A leap second before midnight, half of it over.
def leapSecond : String := "2024-05-01T23:58:60.5+00:00"

-- The next time has come, and the caller is denied once more: the stored time lay ahead, or it was
-- a leap second.
theorem denied_from_next :
    (check (some aheadOfNoon) 5 noon = .deny (300 * billion) ⟨1714565100, 0⟩ ∧
      check (some aheadOfNoon) 5 ⟨1714565100, 0⟩ = .deny (300 * billion) ⟨1714565400, 0⟩) ∧
    (check (some leapSecond) 1 ⟨1714607970, 0⟩ = .deny 29500000000 ⟨1714607999, 500000000⟩ ∧
      (⟨1714607999, 500000000⟩ : Instant) ≤ ⟨1714608000, 0⟩ ∧
      check (some leapSecond) 1 ⟨1714608000, 0⟩ = .deny 500000000 ⟨1714608000, 500000000⟩) := by
  exact ⟨⟨rfl, rfl⟩, rfl, by decide, rfl⟩

end Spiderworks.RateLimit
