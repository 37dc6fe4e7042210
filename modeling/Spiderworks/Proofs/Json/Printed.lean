import Mathlib.Data.List.DropRight
import Spiderworks.Proofs.Json.Numbers
import Spiderworks.Proofs.Json.Objects

namespace Spiderworks

-- A number that its own text reads as.
def Number.Rereads (n : Number) : Prop :=
  Json.read (String.ofList (Json.number n)) = .ok (.num n)

namespace Json

open Spiderworks.Text

variable {s t rest : List Char} {fuel depth level : Nat} {v : Json}

-- ### Strings

theorem hexValue?_hexDigit : ∀ d < 16, hexValue? (hexDigit d) = some d := by decide

theorem tooShortForHex_of_four (a b c d : Char) (t : List Char) :
    tooShortForHex (a :: b :: c :: d :: t) = false := by
  have ha := a.utf8Size_pos
  have hb := b.utf8Size_pos
  have hc := c.utf8Size_pos
  have hd := d.utf8Size_pos
  refine decide_eq_false ?_
  simp only [List.take_succ_cons, List.take_zero, List.foldl_cons, List.foldl_nil]
  omega

-- A digit that is not the last one of four.
theorem readQuoted_hexDigit {d left value : Nat} (hd : d < 16) (hl : 1 < left) (acc t : List Char) :
    readQuoted (.hex left value none) acc (hexDigit d :: t) =
      readQuoted (.hex (left - 1) (value * 16 + d) none) acc t := by
  rw [readQuoted, hexValue?_hexDigit d hd]
  exact if_pos hl

theorem readQuoted_lastDigit {d value : Nat} (hd : d < 16) (hv : value * 16 + d < 0xd800)
    (acc t : List Char) : readQuoted (.hex 1 value none) acc (hexDigit d :: t) =
      readQuoted .plain (Char.ofNat (value * 16 + d) :: acc) t := by
  have hlow : isLowSurrogate (value * 16 + d) = false := by
    simp only [isLowSurrogate, Bool.and_eq_false_iff, decide_eq_false_iff_not]
    omega
  have hhigh : isHighSurrogate (value * 16 + d) = false := by
    simp only [isHighSurrogate, Bool.and_eq_false_iff, decide_eq_false_iff_not]
    omega
  rw [readQuoted, hexValue?_hexDigit d hd]
  simp only [Nat.lt_irrefl, ↓reduceIte, hlow, hhigh, Bool.false_eq_true]

theorem readQuoted_control {c : Char} (hc : c.toNat < 32) (acc t : List Char) :
    readQuoted .plain acc (['\\', 'u', '0', '0'] ++ hexByte c.toNat ++ t) =
      readQuoted .plain (c :: acc) t := by
  have hhigh : c.toNat / 16 % 16 < 16 := Nat.mod_lt _ (by decide)
  have hlow : c.toNat % 16 < 16 := Nat.mod_lt _ (by decide)
  have hvalue : c.toNat / 16 % 16 * 16 + c.toNat % 16 = c.toNat := by omega
  have hstart : readQuoted .plain acc (['\\', 'u', '0', '0'] ++ hexByte c.toNat ++ t) =
      readQuoted (.hex 4 0 none) acc ('0' :: '0' :: (hexByte c.toNat ++ t)) := by
    simp only [hexByte, List.cons_append, List.nil_append, readQuoted, Char.reduceEq, ↓reduceIte,
      tooShortForHex_of_four, Bool.false_eq_true]
  rw [hstart, hexByte, List.cons_append, List.cons_append, List.nil_append,
    show '0' = hexDigit 0 by decide, readQuoted_hexDigit (by decide) (by decide),
    readQuoted_hexDigit (by decide) (by decide), readQuoted_hexDigit hhigh (by decide),
    readQuoted_lastDigit hlow (by omega)]
  simp only [Nat.zero_mul, Nat.zero_add, hvalue, Char.ofNat_toNat]

theorem readQuoted_escapeChar (c : Char) (acc t : List Char) :
    readQuoted .plain acc (escapeChar c ++ t) = readQuoted .plain (c :: acc) t := by
  have named (d : Char) (hd : escaped? d = some c) (hu : d ≠ 'u') :
      readQuoted .plain acc (['\\', d] ++ t) = readQuoted .plain (c :: acc) t := by
    simp [readQuoted, hd, hu]
  unfold escapeChar
  split
  · rename_i hc
    exact named '"' (by rw [hc]; rfl) (by decide)
  split
  · rename_i hc
    exact named '\\' (by rw [hc]; rfl) (by decide)
  split
  · rename_i hc
    exact named 'n' (by rw [hc]; rfl) (by decide)
  split
  · rename_i hc
    exact named 'r' (by rw [hc]; rfl) (by decide)
  split
  · rename_i hc
    exact named 't' (by rw [hc]; rfl) (by decide)
  split
  · rename_i hc
    exact named 'b' (by rw [hc]; rfl) (by decide)
  split
  · rename_i hc
    exact named 'f' (by rw [hc]; rfl) (by decide)
  split
  · rename_i hc
    exact readQuoted_control hc acc t
  · rename_i hquote hback _ _ _ _ _ hc
    simp [readQuoted, hquote, hback, hc]

-- Any text, between its quotes, is read as it is.
theorem readQuoted_quoted (s acc rest : List Char) :
    readQuoted .plain acc (s.flatMap escapeChar ++ '"' :: rest) = .ok (acc.reverse ++ s, rest) := by
  induction s generalizing acc with
  | nil => simp [readQuoted]
  | cons c s ih =>
      rw [List.flatMap_cons, List.append_assoc, readQuoted_escapeChar, ih]
      simp

theorem quoted_append (s rest : List Char) :
    quoted s ++ rest = '"' :: (s.flatMap escapeChar ++ '"' :: rest) := by
  simp [quoted]

theorem readQuoted_toList (text : String) (rest : List Char) :
    readQuoted .plain [] (text.toList.flatMap escapeChar ++ '"' :: rest) =
      .ok (text.toList, rest) := readQuoted_quoted text.toList [] rest

-- ### Space

theorem skipSpace_cons {c : Char} (hc : isSpace c = false) (s : List Char) :
    skipSpace (c :: s) = c :: s := by
  rw [skipSpace, List.dropWhile_cons_of_neg (by simp [hc])]

theorem skipSpace_append (hs : ∀ c ∈ s, isSpace c = true) (t : List Char) :
    skipSpace (s ++ t) = skipSpace t := List.dropWhile_append_of_pos hs

theorem isSpace_of_mem_newLine (level : Nat) : ∀ c ∈ newLine level, isSpace c = true := by
  intro c hc
  rcases List.mem_cons.mp hc with rfl | hc
  · rfl
  · rw [List.eq_of_mem_replicate hc]
    rfl

theorem skipSpace_newLine (level : Nat) (s : List Char) :
    skipSpace (newLine level ++ s) = skipSpace s :=
  skipSpace_append (isSpace_of_mem_newLine level) s

theorem skipSpace_skipSpace (s : List Char) : skipSpace (skipSpace s) = skipSpace s :=
  List.dropWhile_idempotent _ s

-- The readers do not see the space in front of what they read.
theorem readValue_skip (h : skipSpace s = skipSpace t) :
    readValue fuel depth s = readValue fuel depth t := by
  cases fuel with
  | zero => rfl
  | succ fuel => rw [readValue, readValue, h]

theorem readItems_skip (h : skipSpace s = skipSpace t) :
    readItems fuel depth s = readItems fuel depth t := by
  cases fuel with
  | zero => rfl
  | succ fuel => rw [readItems, readItems, readValue_skip h]

theorem readEntries_skip (h : skipSpace s = skipSpace t) :
    readEntries fuel depth s = readEntries fuel depth t := by
  cases fuel with
  | zero => rfl
  | succ fuel => rw [readEntries, readEntries, h]

-- ### Numbers

theorem readValue_of_minus {n : Number} (h : readMagnitude true s = .ok (n, rest)) :
    readValue (fuel + 1) depth ('-' :: s) = .ok (.num n, rest) := by
  rw [readValue, skipSpace_cons rfl]
  simp only [Char.reduceEq, ↓reduceIte, h]
  rfl

theorem isSpace_of_isDigit {c : Char} (hc : isDigit c = true) : isSpace c = false := by
  refine Bool.eq_false_iff.mpr fun hs => ?_
  simp only [isSpace, Bool.or_eq_true, beq_iff_eq] at hs
  rcases hs with ((rfl | rfl) | rfl) | rfl <;> cases hc

theorem readValue_of_digit {c : Char} {n : Number} (hc : isDigit c = true)
    (h : readMagnitude false (c :: s) = .ok (n, rest)) :
    readValue (fuel + 1) depth (c :: s) = .ok (.num n, rest) := by
  have other {d : Char} (hd : isDigit d = false) : c ≠ d := by
    rintro rfl
    rw [hc] at hd
    cases hd
  rw [readValue, skipSpace_cons (isSpace_of_isDigit hc)]
  simp only [other (d := 'n') rfl, other (d := 't') rfl, other (d := 'f') rfl,
    other (d := '"') rfl, other (d := '-') rfl, hc, ↓reduceIte, h]
  rfl

theorem magnitude_of_readValue {n : Number} (h : readValue fuel depth s = .ok (.num n, rest)) :
    ∃ c r, skipSpace s = c :: r ∧ (c = '-' ∧ readMagnitude true r = .ok (n, rest) ∨
      isDigit c = true ∧ readMagnitude false (c :: r) = .ok (n, rest)) := by
  cases fuel with
  | zero => cases h
  | succ fuel =>
      rw [readValue] at h
      split at h
      · cases h
      · rename_i c r hs
        refine ⟨c, r, hs, ?_⟩
        have word {w : Json} {expected : List Char}
            (h : readWord w expected r = .ok (.num n, rest)) (hw : w ≠ .num n) : False :=
          hw (readWord_suffix h).1.symm
        split at h
        · exact (word h (by simp)).elim
        split at h
        · exact (word h (by simp)).elim
        split at h
        · exact (word h (by simp)).elim
        split at h
        · obtain ⟨⟨text, r'⟩, -, h⟩ := bind_eq_ok_iff.mp h
          cases h
        split at h
        · rename_i hc
          obtain ⟨⟨m, r'⟩, hm, h⟩ := bind_eq_ok_iff.mp h
          cases h
          exact .inl ⟨hc, hm⟩
        split at h
        · rename_i hc
          obtain ⟨⟨m, r'⟩, hm, h⟩ := bind_eq_ok_iff.mp h
          cases h
          exact .inr ⟨hc, hm⟩
        split at h
        · split at h
          · cases h
          split at h
          · cases h
          · obtain ⟨⟨vs, r'⟩, -, h⟩ := bind_eq_ok_iff.mp h
            cases h
        split at h
        · split at h
          · cases h
          split at h
          · cases h
          · obtain ⟨⟨es, r'⟩, -, h⟩ := bind_eq_ok_iff.mp h
            cases h
        · cases h

theorem isSpace_of_mem_ofNat {c : Char} {n : Nat} (hc : c ∈ Text.ofNat n) : isSpace c = false :=
  isSpace_of_isDigit (isDigit_of_mem_ofNat hc)

-- The characters of a fixed text are looked at one by one.
theorem isSpace_of_mem_text (hs : s.all (fun c => !isSpace c) = true) :
    ∀ c ∈ s, isSpace c = false := fun c hc => by
  have hspace := List.all_eq_true.mp hs c hc
  rwa [Bool.not_eq_true'] at hspace

theorem isSpace_of_mem_doubleDigits {d : Decimal.Digits} :
    ∀ c ∈ doubleDigits d, isSpace c = false := by
  have digits : ∀ c ∈ Text.ofNat d.digits, isSpace c = false := fun c => isSpace_of_mem_ofNat
  have zeros (k : Nat) : ∀ c ∈ List.replicate k '0', isSpace c = false := by
    intro c hc
    rw [List.eq_of_mem_replicate hc]
    rfl
  have both {a b : List Char} (ha : ∀ c ∈ a, isSpace c = false) (hb : ∀ c ∈ b, isSpace c = false) :
      ∀ c ∈ a ++ b, isSpace c = false := fun c hc =>
    (List.mem_append.mp hc).elim (ha c) (hb c)
  unfold doubleDigits
  dsimp only
  split
  · exact both (both digits (zeros _)) (isSpace_of_mem_text rfl)
  split
  · refine both (fun c hc => digits c (List.mem_of_mem_take hc)) ?_
    refine List.forall_mem_cons.mpr ⟨rfl, fun c hc => digits c (List.mem_of_mem_drop hc)⟩
  split
  · exact both (both (isSpace_of_mem_text rfl) (zeros _)) digits
  · refine both ?_ (List.forall_mem_cons.mpr ⟨rfl, List.forall_mem_cons.mpr ⟨?_, fun c =>
      isSpace_of_mem_ofNat⟩⟩)
    · split
      · rename_i d' hd
        exact hd ▸ digits
      · rename_i d' rest _ hd
        rw [hd] at digits
        refine List.forall_mem_cons.mpr ⟨digits d' (List.mem_cons_self ..), ?_⟩
        refine List.forall_mem_cons.mpr ⟨rfl, fun c hc => digits c (List.mem_cons_of_mem _ hc)⟩
      · nofun
    · split <;> rfl

theorem isSpace_of_mem_number {n : Number} : ∀ c ∈ number n, isSpace c = false := by
  cases n with
  | whole k =>
      rw [number, Text.ofInt]
      split
      · exact List.forall_mem_cons.mpr ⟨rfl, fun c => isSpace_of_mem_ofNat⟩
      · exact fun c => isSpace_of_mem_ofNat
  | double x =>
      rw [number, double]
      split
      · rename_i negative m q narrow _
        have htext : ∀ c ∈ (if m = 0 then ['0', '.', '0']
            else doubleDigits (Decimal.shortest .even m q narrow)), isSpace c = false := by
          split
          · exact isSpace_of_mem_text rfl
          · exact isSpace_of_mem_doubleDigits
        dsimp only
        split
        · exact List.forall_mem_cons.mpr ⟨rfl, htext⟩
        · exact htext
      · exact isSpace_of_mem_text rfl

theorem settled_eq_num {n : Number} (h : settled v = .num n) : v = .num n := by
  cases v <;> first | exact h | cases h

-- What the reader makes of the text of a number by itself it makes of it anywhere.
theorem readValue_number {n : Number} (h : n.Rereads) (hr : Ends rest) :
    readValue (fuel + 1) depth (number n ++ rest) = .ok (.num n, rest) := by
  have hspace : ∀ c ∈ number n, isSpace c = false := isSpace_of_mem_number
  rw [Number.Rereads, read, String.toList_ofList, readChars] at h
  obtain ⟨⟨w, r⟩, hw, h⟩ := bind_eq_ok_iff.mp h
  dsimp only at h
  split at h
  · rename_i hempty
    cases settled_eq_num (Except.ok.inj h)
    have hleft := ((leaves _).value _ _ _ _ hw).suffix
    have hnil : r = [] := by
      cases r with
      | nil => rfl
      | cons c r =>
          rw [skipSpace_cons (hspace c (hleft.subset (List.mem_cons_self ..)))] at hempty
          cases hempty
    obtain ⟨c, t, hs, hm⟩ := magnitude_of_readValue hw
    have hnumber : number n = c :: t := by
      cases hn : number n with
      | nil =>
          rw [hn] at hs
          cases hs
      | cons d t' =>
          rw [hn] at hs hspace
          rw [skipSpace_cons (hspace d (List.mem_cons_self ..))] at hs
          exact hs
    rw [hnumber, List.cons_append]
    subst hnil
    rcases hm with ⟨rfl, hm⟩ | ⟨hc, hm⟩
    · exact readValue_of_minus (hr.readMagnitude_append hm)
    · exact readValue_of_digit hc (hr.readMagnitude_append hm)
  · cases h

theorem readChars_of_readValue {n : Number}
    (h : readValue (fuelFor s) depthLimit s = .ok (.num n, [])) : readChars s = .ok (.num n) := by
  rw [readChars, h]
  rfl

theorem isExact_of_bounds {k : Int} (hk : -Int.pow 2 63 ≤ k ∧ k < Int.pow 2 63) :
    Number.isExact k = true := by
  rw [Number.isExact, decide_eq_true hk.1, decide_eq_true (Int.lt_trans hk.2 (by decide))]
  rfl

-- A whole number that is kept exactly.
theorem rereads_whole {k : Int} (hk : Number.isExact k = true) : (Number.whole k).Rereads := by
  simp only [Number.isExact, Bool.and_eq_true, decide_eq_true_eq,
    show Int.pow 2 63 = 9223372036854775808 from rfl,
    show Int.pow 2 64 = 18446744073709551616 from rfl] at hk
  have hword : k.natAbs < Nat.pow 2 64 := by
    rw [show Nat.pow 2 64 = 18446744073709551616 from rfl]
    omega
  rw [Number.Rereads, read, String.toList_ofList, number, Text.ofInt]
  refine readChars_of_readValue ?_
  split
  · rename_i hneg
    have hbounds : 0 < k.natAbs ∧ k.natAbs ≤ Nat.pow 2 63 := by
      rw [show Nat.pow 2 63 = 9223372036854775808 from rfl]
      omega
    have hexact : exactOrDouble true k.natAbs = .whole k := by
      rw [exactOrDouble, if_pos rfl, if_pos hbounds, Int.ofNat_natAbs_of_nonpos (Int.le_of_lt hneg),
        Int.neg_neg]
    exact readValue_of_minus (hexact ▸ readMagnitude_ofNat hword)
  · rename_i hpos
    have hexact : exactOrDouble false k.natAbs = .whole k := by
      rw [exactOrDouble, if_neg Bool.false_ne_true, Int.natAbs_of_nonneg (Int.not_lt.mp hpos)]
    have hread : readMagnitude false (Text.ofNat k.natAbs) = .ok (.whole k, []) :=
      hexact ▸ readMagnitude_ofNat hword
    cases hs : Text.ofNat k.natAbs with
    | nil => exact absurd hs Nat.toDigits_ne_nil
    | cons c s =>
        rw [hs] at hread
        exact readValue_of_digit (isDigit_of_mem_ofNat (hs ▸ List.mem_cons_self ..)) hread

end Json

-- Whether the text of a double reads back, as a test.
def Number.rereads (x : Float) : Bool :=
  match Json.read (String.ofList (Json.double x)) with
  | .ok (.num n) => decide (n = .double x)
  | _ => false

theorem Number.rereads_of_check {x : Float} (h : Number.rereads x = true) :
    (Number.double x).Rereads := by
  rw [Number.rereads] at h
  rw [Number.Rereads, Json.number]
  split at h
  · rename_i n hn
    rw [hn, of_decide_eq_true h]
  · cases h

end Spiderworks
