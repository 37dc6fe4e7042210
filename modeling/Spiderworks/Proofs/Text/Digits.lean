import Mathlib.Algebra.Group.Nat.Defs
import Mathlib.Data.List.Basic
import Spiderworks.Text.Blank
import Spiderworks.Text.Digits

namespace Spiderworks.Text

variable {c d : Char} {n w : Nat} {s t : List Char}

theorem isDigit_eq (c : Char) : isDigit c = c.isDigit := by
  simp [isDigit, Char.isDigit, Char.le_def]

theorem digitsValue_eq (s : List Char) : digitsValue s = Nat.ofDigitChars 10 s 0 := by
  have step : (fun acc c => acc * 10 + digitValue c) =
      fun (acc : Nat) (c : Char) => 10 * acc + (c.toNat - '0'.toNat) := by
    funext acc c
    rw [Nat.mul_comm, digitValue]
  rw [digitsValue, Nat.ofDigitChars, step]

theorem digitsValue_pairs (a b c d : Char) :
    digitsValue [a, b] * 100 + digitsValue [c, d] = digitsValue [a, b, c, d] := by
  simp only [digitsValue, List.foldl_cons, List.foldl_nil]
  omega

-- ### Numbers as they are written

theorem digitsValue_ofNat (n : Nat) : digitsValue (ofNat n) = n := by
  rw [digitsValue_eq, ofNat]
  exact Nat.ofDigitChars_toDigits (by decide) (by decide)

theorem isDigit_of_mem_ofNat (hc : c ∈ ofNat n) : isDigit c = true := by
  rw [isDigit_eq]
  exact Nat.isDigit_of_mem_toDigits (by decide) (by decide) hc

-- A number other than zero has no zero in front.
theorem head?_ofNat (hn : n ≠ 0) : (ofNat n).head? ≠ some '0' := by
  induction n using Nat.strongRecOn with
  | ind n ih =>
      have hdigit : ∀ m < 10, m ≠ 0 → some m.digitChar ≠ some '0' := by decide
      rw [ofNat]
      rcases Nat.lt_or_ge n 10 with hlt | hge
      · rw [Nat.toDigits_of_lt_base hlt, List.head?_singleton]
        exact hdigit n hlt hn
      · have hpos : n / 10 ≠ 0 := by omega
        have hless : n / 10 < n := by omega
        rw [Nat.toDigits_of_base_le (by decide) hge, List.head?_append_of_ne_nil _
          Nat.toDigits_ne_nil]
        exact ih (n / 10) hless hpos

theorem ofNat_injective : Function.Injective ofNat :=
  Function.LeftInverse.injective digitsValue_ofNat

-- The only other mark in a number is the sign.
theorem notMem_ofInt {c : Char} (hdigit : isDigit c = false) (hsign : c ≠ '-') (n : Int) :
    c ∉ ofInt n := by
  have hnat (k : Nat) : c ∉ ofNat k := fun hc => by
    rw [isDigit_of_mem_ofNat hc] at hdigit
    cases hdigit
  unfold ofInt
  split
  · exact fun h => (List.mem_cons.mp h).elim hsign (hnat _)
  · exact hnat _

theorem ofInt_injective : Function.Injective ofInt := by
  have hsign (k : Nat) (s : List Char) : '-' :: s ≠ ofNat k := fun h => by
    have hdigit : isDigit '-' = true := isDigit_of_mem_ofNat (h ▸ List.mem_cons_self)
    cases hdigit
  intro m n h
  unfold ofInt at h
  split at h <;> split at h
  · have habs := ofNat_injective (List.cons.inj h).2
    omega
  · exact absurd h (hsign _ _)
  · exact absurd h.symm (hsign _ _)
  · have habs := ofNat_injective h
    omega

-- ### Zeros in front

theorem digitsValue_zeros (k : Nat) (s : List Char) :
    digitsValue (List.replicate k '0' ++ s) = digitsValue s := by
  induction k with
  | zero => rfl
  | succ k ih =>
      rw [← ih]
      rfl

theorem digitsValue_padded (w n : Nat) : digitsValue (padded w n) = n := by
  rw [padded, digitsValue_zeros, digitsValue_ofNat]

theorem isDigit_of_mem_padded (hc : c ∈ padded w n) : isDigit c = true := by
  rcases List.mem_append.mp hc with hc | hc
  · rw [List.eq_of_mem_replicate hc]
    rfl
  · exact isDigit_of_mem_ofNat hc

theorem length_padded (hw : 0 < w) (hn : n < 10 ^ w) : (padded w n).length = w := by
  have hlen : (ofNat n).length ≤ w := (Nat.length_toDigits_le_iff (by decide) hw).mpr hn
  simp only [padded, List.length_append, List.length_replicate]
  omega

-- ### Texts without blanks at their ends

theorem isBlank_of_isDigit (hc : isDigit c = true) : isBlank c = false := by
  simp only [isDigit, Bool.and_eq_true, decide_eq_true_eq, Char.le_def] at hc
  have hlow : 48 ≤ c.toNat := hc.1
  have hhigh : c.toNat ≤ 57 := hc.2
  simp [isBlank]
  omega

theorem trim_of_ends (hc : isBlank c = false) (hd : isBlank d = false) (h : c :: s = t ++ [d]) :
    trim (c :: s) = c :: s := by
  have hstart : trimStart (c :: s) = c :: s := by simp [trimStart, hc]
  have hend : trimEnd (t ++ [d]) = t ++ [d] := by simp [trimEnd, hd]
  rw [trim, hstart, h, hend]

end Spiderworks.Text
