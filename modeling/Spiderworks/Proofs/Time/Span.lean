import Spiderworks.Engine.RateLimit

namespace Spiderworks.Time.Instant

variable {a b c t : Instant} {span : Nat}

instance : LE Instant :=
  ⟨fun a b => a.seconds < b.seconds ∨ a.seconds = b.seconds ∧ a.nanos ≤ b.nanos⟩

theorem le_def : a ≤ b ↔ a.seconds < b.seconds ∨ a.seconds = b.seconds ∧ a.nanos ≤ b.nanos :=
  Iff.rfl

instance (a b : Instant) : Decidable (a ≤ b) := decidable_of_iff _ le_def.symm

theorem nanos_lt (ha : a.isLeap = false) : a.nanos < billion := by
  simpa [isLeap] using ha

-- All nanoseconds of an instant. Those of a leap second come again in the second after it.
def total (t : Instant) : Int := t.seconds * billion + t.nanos

-- One for a leap second.
def leaps (t : Instant) : Nat := t.isLeap.toNat

theorem leaps_eq_zero : t.leaps = 0 ↔ t.isLeap = false := by simp [leaps]

theorem leaps_of_isLeap (h : t.isLeap = true) : t.leaps = 1 := by simp [leaps, h]

-- ### Order

theorem le_iff_total (ha : a.isLeap = false) (hb : b.isLeap = false) :
    a ≤ b ↔ a.total ≤ b.total := by
  have hnanos := nanos_lt ha
  have hnanos' := nanos_lt hb
  rw [le_def, total, total]
  unfold billion at *
  omega

-- What is not before an instant that is no leap second, has not fewer nanoseconds.
theorem total_le (ha : a.isLeap = false) (h : a ≤ b) : a.total ≤ b.total := by
  have hnanos := nanos_lt ha
  rw [le_def] at h
  unfold total billion at *
  omega

-- ### Spans

theorem since_cases (a b : Instant) :
    (b.leaps = 1 ∧ a.since b = a.total - b.total + billion) ∨
    (a.leaps = 1 ∧ a.since b = a.total - b.total - billion) ∨
    a.since b = a.total - b.total := by
  have hadd (leap : Int) : (a.seconds - b.seconds + leap) * billion + ((a.nanos : Int) - b.nanos) =
      a.total - b.total + leap * billion := by
    unfold total billion
    omega
  simp only [since, hadd]
  by_cases hb : b.secondOfDay < a.secondOfDay ∧ b.isLeap = true
  · exact .inl ⟨leaps_of_isLeap hb.2, by rw [if_pos hb, Int.one_mul]⟩
  · by_cases ha : a.secondOfDay < b.secondOfDay ∧ a.isLeap = true
    · refine .inr (.inl ⟨leaps_of_isLeap ha.2, ?_⟩)
      rw [if_neg hb, if_pos ha]
      omega
    · refine .inr (.inr ?_)
      rw [if_neg hb, if_neg ha, Int.zero_mul, Int.add_zero]

theorem since_le (a b : Instant) : a.since b ≤ a.total - b.total + b.leaps * billion := by
  have hcases := since_cases a b
  unfold billion at *
  omega

theorem le_since (a b : Instant) : a.total - b.total - a.leaps * billion ≤ a.since b := by
  have hcases := since_cases a b
  unfold billion at *
  omega

-- Without a leap second a span is a difference.
theorem since_eq (ha : a.isLeap = false) (hb : b.isLeap = false) :
    a.since b = a.total - b.total := by
  have hle := since_le a b
  have hge := le_since a b
  rw [leaps_eq_zero.mpr ha] at hge
  rw [leaps_eq_zero.mpr hb] at hle
  omega

theorem since_nonneg (ha : a.isLeap = false) (hb : b.isLeap = false) (h : b ≤ a) :
    0 ≤ a.since b := by
  have htotal := total_le hb h
  rw [since_eq ha hb]
  omega

-- A later start makes a shorter span.
theorem since_le_since (ha : a.isLeap = false) (hb : b.isLeap = false) (hc : c.isLeap = false)
    (h : b ≤ c) : a.since c ≤ a.since b := by
  have htotal := total_le hb h
  rw [since_eq ha hb, since_eq ha hc]
  omega

-- ### Later instants

-- A span that leaves a leap second, if there is one.
theorem plus_eq (h : t.isLeap = true → 2 * billion ≤ t.nanos + span) : t.plus span =
    ⟨t.seconds + ((t.nanos - t.leaps * billion + span) / billion : Nat),
      (t.nanos - t.leaps * billion + span) % billion⟩ := by
  rw [plus, if_neg fun hleap => Nat.not_le.mpr hleap.2 (h hleap.1)]
  cases hleap : t.isLeap with
  | true => simp only [leaps_of_isLeap hleap, ↓reduceIte, Nat.one_mul]
  | false =>
      simp only [leaps_eq_zero.mpr hleap, Bool.false_eq_true, ↓reduceIte, Nat.zero_mul,
        Nat.sub_zero]

theorem isLeap_plus (h : t.isLeap = true → 2 * billion ≤ t.nanos + span) :
    (t.plus span).isLeap = false := by
  rw [plus_eq h, isLeap, decide_eq_false_iff_not, Nat.not_le]
  exact Nat.mod_lt _ (by decide)

theorem total_plus (h : t.isLeap = true → 2 * billion ≤ t.nanos + span) :
    (t.plus span).total = t.total + span - t.leaps * billion := by
  have hleaps : t.leaps * billion ≤ t.nanos := by
    cases hleap : t.isLeap with
    | true => simpa [leaps_of_isLeap hleap, isLeap] using hleap
    | false => simp [leaps_eq_zero.mpr hleap]
  rw [plus_eq h, total, total]
  dsimp only
  unfold billion at *
  omega

theorem plus_plus (t : Instant) (m n : Nat) : (t.plus m).plus n = t.plus (m + n) := by
  by_cases hleave : t.isLeap = true → 2 * billion ≤ t.nanos + m
  · have hlater : t.isLeap = true → 2 * billion ≤ t.nanos + (m + n) := by
      intro hleap
      have := hleave hleap
      omega
    have hnot := isLeap_plus hleave
    rw [plus_eq (t := t.plus m) (by simp [hnot]), leaps_eq_zero.mpr hnot, plus_eq hleave,
      plus_eq hlater]
    dsimp only
    generalize t.nanos - t.leaps * billion = nanos
    rw [mk.injEq]
    unfold billion
    omega
  · obtain ⟨hleap, hstays⟩ := Classical.not_imp.mp hleave
    have hm : t.plus m = ⟨t.seconds, t.nanos + m⟩ := if_pos ⟨hleap, by omega⟩
    have hleap' : (t.plus m).isLeap = true := by
      simp only [hm, isLeap, decide_eq_true_eq] at hleap ⊢
      omega
    have hnanos : t.nanos + m - billion + n = t.nanos - billion + (m + n) := by
      simp only [isLeap, decide_eq_true_eq] at hleap
      omega
    rw [plus, hleap', hm]
    simp only [plus, hleap, true_and, ↓reduceIte, hnanos, Nat.add_assoc]

end Spiderworks.Time.Instant
