import Spiderworks.Engine.RateLimit
import Spiderworks.Proofs.Decimal.Value
import Spiderworks.Proofs.Text.Digits

namespace Spiderworks

def Number.value? : Number → Option ℚ
  | .whole n => some n
  | .double x => Decimal.value? x

namespace RateLimit

variable {n : Number} {s : List Char} {v : Json} {setting : Option String} {k fallback : Nat}

-- ### What a setting holds

-- A text of digits and the number it is of.
structure Spells (ds : List Char) (k : Nat) : Prop where
  nonempty : ds ≠ []
  digits : ∀ c ∈ ds, Text.isDigit c = true
  value : Nat.ofDigitChars 10 ds 0 = k

-- A value that is a whole number of minutes, or the text of one, with blanks around it and a plus
-- in front as it may be.
inductive Whole : Json → Nat → Prop where
  | number {n : Number} {k : Nat} (h : n.value? = some (k : ℚ)) : Whole (.num n) k
  | text {s : String} {ds : List Char} {k : Nat}
    (trimmed : Text.trim s.toList = ds ∨ Text.trim s.toList = '+' :: ds) (spells : Spells ds k) :
    Whole (.str s) k

-- A number with something behind the point, and what stands before it.
inductive Broken : Json → Nat → Prop where
  | number {n : Number} {q : ℚ} (h : n.value? = some q) (positive : 0 < q)
    (broken : ∀ k : Nat, q ≠ k) : Broken (.num n) ⌊q⌋₊

-- The value of the field in a setting that is the text of an object.
def Field (setting : Option String) (v : Json) : Prop :=
  ∃ text json, setting = some text ∧ Json.read? text = some json ∧
    json.get? intervalField = some v

def Holds (setting : Option String) (k : Nat) : Prop :=
  k < 2 ^ 32 ∧ ∃ v, Field setting v ∧ Whole v k

def HoldsBroken (setting : Option String) (k : Nat) : Prop :=
  k < 2 ^ 32 ∧ ∃ v, Field setting v ∧ Broken v k

-- ### Numbers of minutes

theorem isMinutes_eq_some_iff {m : Nat} : isMinutes m = some k ↔ m = k ∧ k < 2 ^ 32 := by
  unfold isMinutes
  rw [Nat.pow_eq]
  split
  · rw [Option.some.injEq]
    omega
  · exact iff_of_false nofun (by omega)

theorem minutes_of_digits_iff (ds : List Char) : (if !ds.isEmpty && ds.all Text.isDigit then
    isMinutes (Text.digitsValue ds) else none) = some k ↔ k < 2 ^ 32 ∧ Spells ds k := by
  have hiff : (!ds.isEmpty && ds.all Text.isDigit) = true ↔
      ds ≠ [] ∧ ∀ c ∈ ds, Text.isDigit c = true := by
    simp
  rw [Text.digitsValue_eq]
  split
  · rename_i hds
    obtain ⟨hne, hall⟩ := hiff.mp hds
    rw [isMinutes_eq_some_iff]
    exact ⟨fun ⟨hk, hlt⟩ => ⟨hlt, hne, hall, hk⟩, fun ⟨hlt, hk⟩ => ⟨hk.value, hlt⟩⟩
  · rename_i hds
    exact iff_of_false nofun fun ⟨_, hk⟩ => hds (hiff.mpr ⟨hk.nonempty, hk.digits⟩)

theorem minutesOfText?_eq_some_iff : minutesOfText? s = some k ↔
    k < 2 ^ 32 ∧ ∃ ds, (s = ds ∨ s = '+' :: ds) ∧ Spells ds k := by
  unfold minutesOfText?
  dsimp only
  split
  · rename_i r
    rw [minutes_of_digits_iff]
    refine and_congr_right fun _ => ⟨fun hr => ⟨r, .inr rfl, hr⟩, fun ⟨ds, hds, hspells⟩ => ?_⟩
    rcases hds with rfl | hds
    · -- a plus is no digit
      exact absurd (hspells.digits '+' List.mem_cons_self) (by decide)
    · exact (List.cons.inj hds).2 ▸ hspells
  · rename_i hplus
    rw [minutes_of_digits_iff]
    refine and_congr_right fun _ => ⟨fun hs => ⟨s, .inl rfl, hs⟩, fun ⟨ds, hds, hspells⟩ => ?_⟩
    rcases hds with rfl | hds
    · exact hspells
    · exact absurd hds (hplus ds)

theorem minutesOfNumber?_eq_some_iff : minutesOfNumber? n = some k ↔
    k < 2 ^ 32 ∧ ∃ q, n.value? = some q ∧ 0 ≤ q ∧ ⌊q⌋₊ = k := by
  cases n with
  | whole n =>
      have hvalue (q : ℚ) : (Number.whole n).value? = some q ↔ (n : ℚ) = q := Option.some_inj
      simp only [minutesOfNumber?, hvalue, exists_eq_left', Int.cast_nonneg_iff]
      by_cases hn : 0 ≤ n
      · rw [if_pos hn, isMinutes_eq_some_iff, ← Int.floor_toNat, Int.floor_intCast]
        exact ⟨fun ⟨hk, hlt⟩ => ⟨hlt, hn, hk⟩, fun ⟨hlt, _, hk⟩ => ⟨hk, hlt⟩⟩
      · rw [if_neg hn]
        exact iff_of_false nofun fun ⟨_, hpos, _⟩ => hn hpos
  | double x =>
      rw [minutesOfNumber?]
      change _ ↔ k < 2 ^ 32 ∧ ∃ q, Decimal.value? x = some q ∧ 0 ≤ q ∧ ⌊q⌋₊ = k
      cases hx : Decimal.value? x with
      | none =>
          rw [Decimal.truncate?_of_none hx]
          simp
      | some q =>
          simp only [Option.some.injEq, exists_eq_left']
          by_cases hq : 0 ≤ q
          · rw [if_pos ((Decimal.zero_le_iff hx).mpr hq), Decimal.truncate?_of_value hx hq,
              Option.bind_some, isMinutes_eq_some_iff, Int.floor_toNat]
            exact ⟨fun ⟨hk, hlt⟩ => ⟨hlt, hq, hk⟩, fun ⟨hlt, _, hk⟩ => ⟨hk, hlt⟩⟩
          · rw [if_neg (mt (Decimal.zero_le_iff hx).mp hq)]
            exact iff_of_false nofun fun ⟨_, hpos, _⟩ => hq hpos

-- A number that is not negative is whole, or there is something behind its point.
theorem whole_or_broken_iff : Whole (.num n) k ∨ Broken (.num n) k ↔
    ∃ q, n.value? = some q ∧ 0 ≤ q ∧ ⌊q⌋₊ = k := by
  constructor
  · rintro (h | h)
    · cases h with
      | number h => exact ⟨k, h, k.cast_nonneg, Nat.floor_natCast k⟩
    · cases h with
      | number h positive _ => exact ⟨_, h, positive.le, rfl⟩
  · rintro ⟨q, h, hq, rfl⟩
    by_cases hwhole : ∃ j : Nat, q = j
    · obtain ⟨j, rfl⟩ := hwhole
      rw [Nat.floor_natCast]
      exact .inl (.number h)
    · have hbroken : ∀ j : Nat, q ≠ j := fun j hj => hwhole ⟨j, hj⟩
      have hne : q ≠ 0 := fun hzero => hbroken 0 (by rw [hzero, Nat.cast_zero])
      exact .inr (.number h (lt_of_le_of_ne hq hne.symm) hbroken)

theorem minutesOf?_eq_some_iff :
    minutesOf? v = some k ↔ k < 2 ^ 32 ∧ (Whole v k ∨ Broken v k) := by
  cases v with
  | num n => rw [minutesOf?, minutesOfNumber?_eq_some_iff, whole_or_broken_iff]
  | str s =>
      rw [minutesOf?, minutesOfText?_eq_some_iff]
      refine and_congr_right fun _ => ⟨fun ⟨ds, hds, hspells⟩ => .inl (.text hds hspells), ?_⟩
      rintro (h | h)
      · cases h with
        | text hds hspells => exact ⟨_, hds, hspells⟩
      · cases h
  | null | bool b | arr items | obj entries =>
      exact iff_of_false nofun fun ⟨_, h⟩ => by rcases h with h | h <;> cases h

-- ### Settings

-- The minutes that a setting gives.
def given? (setting : Option String) : Option Nat :=
  (setting.bind Json.read?).bind fun v => (v.get? intervalField).bind minutesOf?

theorem intervalOf_eq (setting : Option String) (fallback : Nat) :
    intervalOf setting fallback = (given? setting).getD fallback := rfl

theorem given?_eq_some_iff :
    given? setting = some k ↔ ∃ v, Field setting v ∧ minutesOf? v = some k := by
  simp only [given?, Option.bind_eq_some_iff, Field]
  constructor
  · rintro ⟨json, ⟨text, hsetting, hread⟩, v, hv, hk⟩
    exact ⟨v, ⟨text, json, hsetting, hread, hv⟩, hk⟩
  · rintro ⟨v, ⟨text, json, hsetting, hread, hv⟩, hk⟩
    exact ⟨json, ⟨text, hsetting, hread⟩, v, hv, hk⟩

theorem given?_iff_holds :
    given? setting = some k ↔ Holds setting k ∨ HoldsBroken setting k := by
  rw [given?_eq_some_iff]
  simp only [minutesOf?_eq_some_iff, Holds, HoldsBroken]
  constructor
  · rintro ⟨v, hv, hlt, hk | hk⟩
    · exact .inl ⟨hlt, v, hv, hk⟩
    · exact .inr ⟨hlt, v, hv, hk⟩
  · rintro (⟨hlt, v, hv, hk⟩ | ⟨hlt, v, hv, hk⟩)
    · exact ⟨v, hv, hlt, .inl hk⟩
    · exact ⟨v, hv, hlt, .inr hk⟩

theorem intervalOf_of_holds (fallback : Nat) (h : Holds setting k ∨ HoldsBroken setting k) :
    intervalOf setting fallback = k := by
  rw [intervalOf_eq, given?_iff_holds.mpr h, Option.getD_some]

theorem intervalOf_of_not (fallback : Nat)
    (h : ∀ k, ¬(Holds setting k ∨ HoldsBroken setting k)) :
    intervalOf setting fallback = fallback := by
  have hnone := Option.eq_none_iff_forall_ne_some.mpr fun k hk => h k (given?_iff_holds.mp hk)
  rw [intervalOf_eq, hnone, Option.getD_none]

theorem Field.unique {v' : Json} (h : Field setting v) (h' : Field setting v') : v = v' := by
  obtain ⟨text, json, rfl, hread, hv⟩ := h
  obtain ⟨text', json', hsetting, hread', hv'⟩ := h'
  cases hsetting
  obtain rfl : json = json' := Option.some.inj (hread.symm.trans hread')
  exact Option.some.inj (hv.symm.trans hv')

theorem not_holds_of_broken {j : Nat} (h : HoldsBroken setting k) : ¬Holds setting j := by
  rintro ⟨-, v, hv, hwhole⟩
  obtain ⟨-, v', hv', hbroken⟩ := h
  obtain rfl := hv.unique hv'
  cases hbroken with
  | number hq _ hne =>
      cases hwhole with
      | number hj => exact hne j (Option.some.inj (hq.symm.trans hj))

-- ### What is expected

-- What is expected of the interval: `whole`, that the minutes are taken that the setting holds;
-- `other`, that a setting without whole minutes leaves the usual interval; and `unlimited`, that
-- no setting takes the limit away but one that holds a zero.
structure Follows (setting : Option String) (fallback : Nat) : Prop where
  whole : ∀ k, Holds setting k → intervalOf setting fallback = k
  other : (∀ k, ¬Holds setting k) → intervalOf setting fallback = fallback
  unlimited : intervalOf setting fallback = 0 → Holds setting 0 ∨ fallback = 0

theorem follows (fallback : Nat) (h : ∀ k, ¬HoldsBroken setting k) : Follows setting fallback := by
  have hother : (∀ k, ¬Holds setting k) → intervalOf setting fallback = fallback := by
    intro hnone
    exact intervalOf_of_not fallback fun k hk => hk.elim (hnone k) (h k)
  refine ⟨fun k hk => intervalOf_of_holds fallback (.inl hk), hother, fun hzero => ?_⟩
  by_cases hsome : ∃ k, Holds setting k
  · obtain ⟨k, hk⟩ := hsome
    rw [intervalOf_of_holds fallback (.inl hk)] at hzero
    exact .inl (hzero ▸ hk)
  · rw [hother (not_exists.mp hsome)] at hzero
    exact .inr hzero

-- The setting is followed whatever it is, unless it holds a number with something behind the point.
-- Then what stands before the point is taken, be it zero.
theorem follows_iff (setting : Option String) :
    ((∀ fallback < 2 ^ 32, Follows setting fallback) ↔ ∀ k, ¬HoldsBroken setting k) ∧
    ∀ k, HoldsBroken setting k → ∀ fallback, intervalOf setting fallback = k := by
  have hbroken : ∀ k, HoldsBroken setting k → ∀ fallback, intervalOf setting fallback = k :=
    fun k hk fallback => intervalOf_of_holds fallback (.inr hk)
  refine ⟨⟨fun hall k hk => ?_, fun hnone fallback _ => follows fallback hnone⟩, hbroken⟩
  have hother (fallback : Nat) (hlt : fallback < 2 ^ 32) : k = fallback := by
    rw [← hbroken k hk fallback]
    exact (hall fallback hlt).other fun j => not_holds_of_broken hk
  have hzero := hother 0 (by decide)
  have hone := hother 1 (by decide)
  omega

def number? : Json → Option Number
  | .num n => some n
  | _ => none

theorem field_of_number {text : String}
    (h : ((Json.read? text).bind (·.get? intervalField)).bind number? = some n) :
    Field (some text) (.num n) := by
  simp only [Option.bind_eq_some_iff] at h
  obtain ⟨v, ⟨json, hread, hv⟩, hn⟩ := h
  cases v with
  | num m =>
      cases hn
      exact ⟨text, json, rfl, hread, hv⟩
  | null | bool b | str s | arr items | obj entries => cases hn

def fiveText : String := "\x7b\"apiCallIntervalMinutes\": 5.0\x7d"

def halfText : String := "\x7b\"apiCallIntervalMinutes\": 0.5\x7d"

theorem field_fiveText : Field (some fiveText) (.num (.double 5.0)) :=
  field_of_number (by decide +kernel)

theorem field_halfText : Field (some halfText) (.num (.double 0.5)) :=
  field_of_number (by decide +kernel)

theorem value?_five : Decimal.value? 5.0 = some 5 := by
  have hparts : Decimal.parts 5.0 = .finite false 5629499534213120 (-50) false := by decide +kernel
  rw [Decimal.value?_eq, hparts]
  norm_num [Decimal.signed]

theorem value?_half : Decimal.value? 0.5 = some (1 / 2) := by
  have hparts : Decimal.parts 0.5 = .finite false 4503599627370496 (-53) true := by decide +kernel
  rw [Decimal.value?_eq, hparts]
  norm_num [Decimal.signed]

theorem holdsBroken_halfText : HoldsBroken (some halfText) 0 := by
  have hne : ∀ k : Nat, (1 / 2 : ℚ) ≠ k := by
    intro k hk
    have htwice : ((2 * k : Nat) : ℚ) = (1 : Nat) := by
      push_cast
      rw [← hk]
      norm_num
    have hnat : 2 * k = 1 := Nat.cast_injective htwice
    omega
  have hbroken : Broken (.num (.double 0.5)) ⌊(1 / 2 : ℚ)⌋₊ :=
    .number value?_half (by norm_num) hne
  have hfloor : ⌊(1 / 2 : ℚ)⌋₊ = 0 := by norm_num
  exact ⟨by decide, _, field_halfText, hfloor ▸ hbroken⟩

-- Five minutes are taken, and half a minute is taken for none.
theorem follows_five_not_half :
    intervalOf (some fiveText) 30 = 5 ∧ intervalOf (some halfText) 30 = 0 := by
  have hwhole : Holds (some fiveText) 5 := ⟨by decide, _, field_fiveText, .number value?_five⟩
  have hnot : ∀ k, ¬HoldsBroken (some fiveText) k := fun k hk => not_holds_of_broken hk hwhole
  exact ⟨((follows_iff (some fiveText)).1.mpr hnot 30 (by decide)).whole 5 hwhole,
    (follows_iff (some halfText)).2 0 holdsBroken_halfText 30⟩

-- Half a minute is no whole number of minutes, and still it takes the limit away.
theorem unlimited_half : (∀ k, ¬Holds (some halfText) k) ∧ intervalOf (some halfText) 5 = 0 ∧
    ¬Follows (some halfText) 5 := by
  have hnone : ∀ k, ¬Holds (some halfText) k := fun k => not_holds_of_broken holdsBroken_halfText
  have hzero : intervalOf (some halfText) 5 = 0 := intervalOf_of_holds 5 (.inr holdsBroken_halfText)
  refine ⟨hnone, hzero, fun hfollows => ?_⟩
  have hfive := hfollows.other hnone
  omega

end RateLimit

end Spiderworks
