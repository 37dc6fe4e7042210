import Mathlib.Algebra.Order.Field.Power
import Mathlib.Data.Rat.Floor
import Spiderworks.Decimal.Parts

namespace Spiderworks.Decimal

open Float.Model (UnpackedFloat Format)
open Float.Model.UnpackedFloat (Sign unpackMantissa unpackExponent unpackSign)

variable {x : Float} {v : ℚ} {n : Int}

def value? (x : Float) : Option ℚ :=
  match x.toModel.unpack with
  | .zero _ => some 0
  | .finite sign m q _ => some (sign.apply m * 2 ^ q)
  | .infinity _ => none
  | .notANumber => none

def isNegative : Sign → Bool
  | .negative => true
  | .positive => false

-- What the parts of a double say about it.
inductive Reading : UnpackedFloat → Parts → Prop where
  | nan : Reading .notANumber .nan
  | infinite (sign : Sign) : Reading (.infinity sign) (.infinite (isNegative sign))
  | zero (sign : Sign) : Reading (.zero sign) (.finite (isNegative sign) 0 (-1074) false)
  | finite (sign : Sign) (m : Nat) (q : Int) (h : 0 < m) (narrow : Bool) :
    Reading (.finite sign m q h) (.finite (isNegative sign) m q narrow)

-- ### Fields of 64 bits

theorem toNat_mantissa (b : BitVec Format.binary64.numBits) :
    (unpackMantissa b).toNat = b.toNat % Nat.pow 2 52 := by
  rw [show (unpackMantissa b).toNat = (b.extractLsb 51 0).toNat from rfl]
  simp [BitVec.extractLsb_toNat]

theorem toNat_exponent (b : BitVec Format.binary64.numBits) :
    (unpackExponent b).toNat = b.toNat / Nat.pow 2 52 % 2048 := by
  rw [show (unpackExponent b).toNat = (b.extractLsb 62 52).toNat from rfl]
  simp [BitVec.extractLsb_toNat, Nat.shiftRight_eq_div_pow]

theorem toNat_sign (b : BitVec Format.binary64.numBits) :
    (unpackSign b).toNat = b.toNat / Nat.pow 2 63 % 2 := by
  rw [show (unpackSign b).toNat = (b.extractLsb 63 63).toNat from rfl]
  simp [BitVec.extractLsb_toNat, Nat.shiftRight_eq_div_pow]

theorem isNegative_sign (b : BitVec Format.binary64.numBits) :
    isNegative (Sign.ofBitVec (unpackSign b)) = decide (Nat.pow 2 63 ≤ b.toNat) := by
  have hlt : b.toNat < 2 ^ 64 := b.isLt
  have hzero : unpackSign b = 0#1 ↔ b.toNat < Nat.pow 2 63 := by
    rw [← BitVec.toNat_inj, toNat_sign, BitVec.toNat_ofNat]
    simp only [Nat.pow_eq]
    omega
  simp only [Sign.ofBitVec, hzero]
  split
  · rename_i hsmall
    exact (decide_eq_false (Nat.not_le.mpr hsmall)).symm
  · rename_i hlarge
    exact (decide_eq_true (Nat.not_lt.mp hlarge)).symm

theorem toNat_implicit (mantissa : BitVec 52) :
    (1#1 ++ mantissa).toNat = Nat.pow 2 52 + mantissa.toNat := by
  rw [BitVec.toNat_append, ← Nat.shiftLeft_add_eq_or_of_lt mantissa.isLt]
  rfl

theorem reading_unpack (b : BitVec Format.binary64.numBits) :
    Reading (.unpack .binary64 b) (Parts.ofBits b.toNat) := by
  have hm := toNat_mantissa b
  have he := toNat_exponent b
  have hones : unpackExponent b = -1#11 ↔ b.toNat / Nat.pow 2 52 % 2048 = 2047 := by
    rw [← BitVec.toNat_inj, he]
    rfl
  have hnone : unpackExponent b = 0#11 ↔ b.toNat / Nat.pow 2 52 % 2048 = 0 := by
    rw [← BitVec.toNat_inj, he]
    rfl
  have hempty : unpackMantissa b = 0#52 ↔ b.toNat % Nat.pow 2 52 = 0 := by
    rw [← BitVec.toNat_inj, hm]
    rfl
  unfold UnpackedFloat.unpack Parts.ofBits
  rw [← isNegative_sign]
  dsimp only
  by_cases hinf : unpackExponent b = -1#11
  · rw [if_pos hinf, if_pos (hones.mp hinf)]
    by_cases hmantissa : unpackMantissa b = 0#52
    · rw [if_pos hmantissa, if_pos (hempty.mp hmantissa)]
      exact .infinite _
    · rw [if_neg hmantissa, if_neg (mt hempty.mpr hmantissa)]
      exact .nan
  · rw [if_neg hinf, if_neg (mt hones.mpr hinf)]
    by_cases hsmall : unpackExponent b = 0#11
    · rw [if_pos hsmall, if_pos (hnone.mp hsmall)]
      by_cases hmantissa : unpackMantissa b = 0#52
      · rw [dif_pos hmantissa, hempty.mp hmantissa]
        exact .zero _
      · rw [dif_neg hmantissa, ← hm]
        have hq : ((unpackExponent b).toNat : Int) - ((1023 : Nat) + (52 : Nat)) + 1 = -1074 := by
          rw [he, hnone.mp hsmall]
          rfl
        rw [← hq]
        exact .finite _ _ _ _ _
    · have hq : ((unpackExponent b).toNat : Int) - ((1023 : Nat) + (52 : Nat)) =
          (b.toNat / Nat.pow 2 52 % 2048 : Nat) - 1075 := by
        rw [he]
        omega
      rw [if_neg hsmall, if_neg (mt hnone.mpr hsmall), ← hm, ← toNat_implicit, ← hq]
      exact .finite _ _ _ _ _

theorem reading (x : Float) : Reading x.toModel.unpack (parts x) :=
  reading_unpack x.toBits.toBitVec

-- A magnitude with its sign.
def signed (negative : Bool) (m : Nat) (q : Int) : ℚ :=
  if negative then -(m * 2 ^ q) else m * 2 ^ q

theorem apply_eq_signed (sign : Sign) (m : Nat) (q : Int) :
    ((sign.apply m : Int) * 2 ^ q : ℚ) = signed (isNegative sign) m q := by
  cases sign with
  | positive => rfl
  | negative =>
      rw [show Sign.negative.apply m = -(m : Int) from rfl, Int.cast_neg, Int.cast_natCast, neg_mul]
      rfl

-- The value is read off the parts.
theorem value?_eq (x : Float) : value? x =
    match parts x with
    | .finite negative m q _ => some (signed negative m q)
    | _ => none := by
  have hreading := reading x
  unfold value?
  generalize x.toModel.unpack = u, parts x = p at hreading ⊢
  cases hreading with
  | nan => rfl
  | infinite sign => rfl
  | zero sign =>
      cases sign with
      | positive => simp [signed, isNegative]
      | negative => simp [signed, isNegative]
  | finite sign m q hm narrow => exact congrArg some (apply_eq_signed sign m q)

-- ### Doubles that are not negative

theorem unpack_zero : (0.0 : Float).toModel.unpack = .zero .positive := by rfl

theorem zero_le_iff_unpack :
    0.0 ≤ x ↔ (UnpackedFloat.zero .positive).le x.toModel.unpack = true := by
  rw [← unpack_zero]
  exact decide_eq_true_iff

theorem zero_le_iff (h : value? x = some v) : 0.0 ≤ x ↔ 0 ≤ v := by
  unfold value? at h
  rw [zero_le_iff_unpack]
  generalize x.toModel.unpack = u at h
  cases u with
  | infinity sign => cases h
  | notANumber => cases h
  | zero sign =>
      cases h
      exact iff_of_true rfl le_rfl
  | finite sign m q hm =>
      have hpos : (0 : ℚ) < m * 2 ^ q := mul_pos (Nat.cast_pos.mpr hm) (zpow_pos (by decide) q)
      rw [Option.some.injEq, apply_eq_signed] at h
      subst h
      cases sign with
      | positive => exact iff_of_true rfl hpos.le
      | negative => exact iff_of_false nofun (not_le.mpr (neg_neg_of_pos hpos))

theorem beq_zero_iff_unpack :
    (x == 0.0) = true ↔ x.toModel.unpack.beq (.zero .positive) = true := by
  rw [← unpack_zero]
  exact Iff.rfl

-- Zero has two signs.
theorem beq_zero_iff (h : value? x = some v) : (x == 0.0) = true ↔ v = 0 := by
  unfold value? at h
  rw [beq_zero_iff_unpack]
  generalize x.toModel.unpack = u at h
  cases u with
  | infinity sign => cases h
  | notANumber => cases h
  | zero sign =>
      cases h
      exact iff_of_true (by cases sign <;> rfl) rfl
  | finite sign m q hm =>
      have hpos : (0 : ℚ) < m * 2 ^ q := mul_pos (Nat.cast_pos.mpr hm) (zpow_pos (by decide) q)
      rw [Option.some.injEq, apply_eq_signed] at h
      subst h
      refine iff_of_false (by cases sign <;> nofun) ?_
      cases sign with
      | positive => exact hpos.ne'
      | negative => exact (neg_neg_of_pos hpos).ne

-- The greatest whole number that is not above `m · 2 ^ q`.
theorem floor_eq_wholePart (m : Nat) (q : Int) : ⌊(m * 2 ^ q : ℚ)⌋ = ((wholePart m q).1 : Int) := by
  unfold wholePart
  split
  · rename_i hq
    obtain ⟨k, rfl⟩ := Int.eq_ofNat_of_zero_le hq
    have hcast : (m * 2 ^ (k : Int) : ℚ) = ((m * 2 ^ k : Nat) : ℚ) := by
      rw [zpow_natCast]
      push_cast
      rfl
    rw [hcast, Int.floor_natCast]
    rfl
  · rename_i hq
    obtain ⟨k, rfl⟩ : ∃ k : Nat, q = -k := ⟨(-q).toNat, by omega⟩
    have hcast : (m * 2 ^ (-k : Int) : ℚ) = (m : ℚ) / ((2 ^ k : Nat) : ℚ) := by
      rw [zpow_neg, zpow_natCast, ← div_eq_mul_inv]
      push_cast
      rfl
    rw [hcast, Rat.floor_natCast_div_natCast, neg_neg, Int.toNat_natCast]
    rfl

-- A double that is not negative is cut to the greatest whole number that is not above it.
theorem truncate?_of_value (h : value? x = some v) (hv : 0 ≤ v) : truncate? x = some ⌊v⌋ := by
  rw [value?_eq] at h
  unfold truncate?
  cases hp : parts x with
  | nan | infinite negative => simp [hp] at h
  | finite negative m q narrow =>
      have hfloor := floor_eq_wholePart m q
      rw [hp, Option.some.injEq] at h
      subst h
      cases negative with
      | false => exact congrArg some hfloor.symm
      | true =>
          -- only zero has a sign and is not negative
          have hzero : (m * 2 ^ q : ℚ) = 0 :=
            le_antisymm (neg_nonneg.mp hv) (mul_nonneg m.cast_nonneg (zpow_nonneg (by decide) q))
          rw [hzero, Int.floor_zero] at hfloor
          simp [signed, hzero, ← hfloor]

theorem truncate?_of_none (h : value? x = none) : truncate? x = none := by
  rw [value?_eq] at h
  unfold truncate?
  cases hp : parts x with
  | nan | infinite negative => rfl
  | finite negative m q narrow => simp [hp] at h

-- ### Doubles below `2 ^ 64`

-- A mantissa has 53 bits, all of them unless the double is next to zero.
theorem bounds_of_parts {negative narrow : Bool} {m : Nat} {q : Int}
    (h : parts x = .finite negative m q narrow) : m < 2 ^ 53 ∧ (-1074 < q → 2 ^ 52 ≤ m) := by
  have hfraction : x.toBits.toNat % Nat.pow 2 52 < 2 ^ 52 := Nat.mod_lt _ (by decide)
  unfold parts Parts.ofBits at h
  dsimp only at h
  split at h
  · split at h <;> cases h
  · split at h
    · cases h
      omega
    · cases h
      simp only [Nat.pow_eq] at hfraction ⊢
      omega

theorem unpack_two_pow : (18446744073709551616.0 : Float).toModel.unpack =
    .finite .positive 4503599627370496 12 (by decide) := by rfl

theorem lt_two_pow_iff_unpack : x < 18446744073709551616.0 ↔
    x.toModel.unpack.lt (.finite .positive 4503599627370496 12 (by decide)) = true := by
  rw [← unpack_two_pow]
  exact decide_eq_true_iff

theorem mul_two_pow_lt_iff {m : Nat} {q : Int} (hm : m < 2 ^ 53) (hfull : -1074 < q → 2 ^ 52 ≤ m) :
    (m * 2 ^ q : ℚ) < 2 ^ 64 ↔ q < 12 ∨ q = 12 ∧ m < 2 ^ 52 := by
  rcases lt_trichotomy q 12 with hq | rfl | hq
  · have hm' : (m : ℚ) < 2 ^ 53 := mod_cast hm
    refine iff_of_true ?_ (.inl hq)
    calc (m * 2 ^ q : ℚ) < 2 ^ 53 * 2 ^ q := by gcongr
      _ ≤ 2 ^ 53 * 2 ^ (11 : Int) := by
        gcongr
        · norm_num
        · omega
      _ = 2 ^ 64 := by norm_num
  · have hcast : (m * 2 ^ (12 : Int) : ℚ) = (m * 2 ^ 12 : Nat) := by
      push_cast
      rfl
    have hlt : ((m * 2 ^ 12 : Nat) : ℚ) < 2 ^ 64 ↔ m * 2 ^ 12 < 2 ^ 64 := mod_cast Iff.rfl
    rw [hcast, hlt]
    omega
  · have hm' : (2 ^ 52 : ℚ) ≤ m := mod_cast hfull (by omega)
    refine iff_of_false (not_lt.mpr ?_) (by omega)
    calc (2 ^ 64 : ℚ) = 2 ^ 52 * 2 ^ (12 : Int) := by norm_num
      _ ≤ m * 2 ^ q := by
        gcongr
        norm_num

-- Doubles of one sign stand in the order of their exponents, and then of their mantissas.
theorem lt_two_pow_iff (h : value? x = some v) : x < 18446744073709551616.0 ↔ v < 2 ^ 64 := by
  have hreading := reading x
  have hbounds := @bounds_of_parts x
  rw [lt_two_pow_iff_unpack]
  unfold value? at h
  generalize x.toModel.unpack = u, parts x = p at h hreading hbounds
  cases hreading with
  | nan | infinite sign => cases h
  | zero sign =>
      cases h
      exact iff_of_true (by cases sign <;> rfl) (by norm_num)
  | finite sign m q hm narrow =>
      obtain ⟨hsmall, hfull⟩ := hbounds rfl
      have hpos : (0 : ℚ) < m * 2 ^ q := mul_pos (Nat.cast_pos.mpr hm) (zpow_pos (by decide) q)
      rw [Option.some.injEq, apply_eq_signed] at h
      subst h
      cases sign with
      | negative => exact iff_of_true rfl ((neg_neg_of_pos hpos).trans (by norm_num))
      | positive =>
          have hcompare : (UnpackedFloat.finite .positive m q hm).lt
              (.finite .positive 4503599627370496 12 (by decide)) = true ↔
              q < 12 ∨ q = 12 ∧ m < 2 ^ 52 := by
            dsimp only [UnpackedFloat.lt, UnpackedFloat.compare]
            simp [Ordering.then_eq_lt, compare_lt_iff_lt]
          exact hcompare.trans (mul_two_pow_lt_iff hsmall hfull).symm

-- What is no number is not between two others.
theorem value?_of_bounds (hzero : 0.0 ≤ x) (hlt : x < 18446744073709551616.0) :
    ∃ v, value? x = some v := by
  rw [zero_le_iff_unpack] at hzero
  rw [lt_two_pow_iff_unpack] at hlt
  unfold value?
  generalize x.toModel.unpack = u at hzero hlt
  cases u with
  | infinity sign =>
      cases sign with
      | positive => cases hlt
      | negative => cases hzero
  | notANumber => cases hzero
  | zero sign => exact ⟨0, rfl⟩
  | finite sign m q hm => exact ⟨_, rfl⟩

end Spiderworks.Decimal
