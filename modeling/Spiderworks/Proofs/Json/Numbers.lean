import Spiderworks.Json.Printer
import Spiderworks.Json.Reader
import Spiderworks.Proofs.Fallible
import Spiderworks.Proofs.Text.Digits

namespace Spiderworks.Json

open Spiderworks.Text

variable {s t rest : List Char} {word dropped : Nat} {negative : Bool} {e : Int} {n : Number}

-- ### What follows a number

-- No number goes on here.
def Ends (rest : List Char) : Prop :=
  ∀ c, rest.head? = some c → isDigit c = false ∧ c ≠ '.' ∧ c ≠ 'e' ∧ c ≠ 'E'

theorem Ends.nil : Ends [] := nofun

theorem Ends.cons {c : Char} (hc : isDigit c = false ∧ c ≠ '.' ∧ c ≠ 'e' ∧ c ≠ 'E') :
    Ends (c :: rest) := by
  intro d hd
  cases hd
  exact hc

theorem Ends.takeWhile_append (h : Ends rest) (s : List Char) :
    (s ++ rest).takeWhile isDigit = s.takeWhile isDigit := by
  induction s with
  | nil =>
      cases rest with
      | nil => rfl
      | cons c rest => simp [(h c rfl).1]
  | cons c s ih =>
      by_cases hc : isDigit c = true
      · simp [hc, ih]
      · simp [hc]

theorem Ends.dropWhile_append (h : Ends rest) (s : List Char) :
    (s ++ rest).dropWhile isDigit = s.dropWhile isDigit ++ rest := by
  induction s with
  | nil =>
      cases rest with
      | nil => rfl
      | cons c rest => simp [(h c rfl).1]
  | cons c s ih =>
      by_cases hc : isDigit c = true
      · simp [hc, ih]
      · simp [hc]

theorem Ends.takeWord_append (h : Ends rest) (word : Nat) (s : List Char) :
    takeWord word (s ++ rest) = ((takeWord word s).1, (takeWord word s).2 ++ rest) := by
  induction s generalizing word with
  | nil =>
      cases rest with
      | nil => rfl
      | cons c rest =>
          simp [takeWord, (h c rfl).1]
  | cons c s ih =>
      rw [List.cons_append, takeWord, takeWord]
      split
      · exact ih _
      · rfl

theorem Ends.startsWithDigit_append (h : Ends rest) (s : List Char) :
    startsWithDigit (s ++ rest) = startsWithDigit s := by
  cases s with
  | nil =>
      cases rest with
      | nil => rfl
      | cons c rest => exact (h c rfl).1
  | cons c s => rfl

-- ### The parts of a number

-- A double is made of what has been read before, whatever follows.
theorem bind_ofParts_eq {r r' : List Char}
    (h : (do let m ← ofParts negative word e; return (m, r)) = .ok (n, r')) :
    r' = r ∧ ∀ t : List Char, (do let m ← ofParts negative word e; return (m, t)) =
      (.ok (n, t) : Except ReadError (Number × List Char)) := by
  obtain ⟨m, hm, hn⟩ := bind_eq_ok_iff.mp h
  cases hn
  refine ⟨rfl, fun t => ?_⟩
  rw [hm]
  rfl

-- An exponent without its sign, and what the reader does with it.
def signOf : List Char → Bool × List Char
  | '+' :: r => (false, r)
  | '-' :: r => (true, r)
  | r => (false, r)

def readPower (negative : Bool) (word : Nat) (start : Int) (down : Bool) (s : List Char) :
    Except ReadError (Number × List Char) :=
  match s with
  | [] => .error .cutShort
  | _ =>
    let ds := s.takeWhile isDigit
    let rest := s.dropWhile isDigit
    if ds.isEmpty then .error .malformed
    else
      let e : Int := digitsValue ds
      if Nat.pow 2 31 ≤ e ∧ word ≠ 0 ∧ !down then .error .malformed
      else do
        let n ← ofParts negative word (if down then start - e else start + e)
        return (n, rest)

theorem readExponent_eq (negative : Bool) (word : Nat) (e : Int) (s : List Char) :
    readExponent negative word e s = readPower negative word e (signOf s).1 (signOf s).2 := rfl

theorem signOf_append (h : (signOf s).2 ≠ []) (rest : List Char) :
    signOf (s ++ rest) = ((signOf s).1, (signOf s).2 ++ rest) := by
  cases s with
  | nil => exact absurd rfl h
  | cons c s =>
      rw [List.cons_append]
      unfold signOf
      split <;> split <;> simp_all

theorem Ends.readPower_append {down : Bool} {r : List Char} (hr : Ends rest)
    (h : readPower negative word e down s = .ok (n, r)) :
    s ≠ [] ∧ readPower negative word e down (s ++ rest) = .ok (n, r ++ rest) := by
  cases s with
  | nil => cases h
  | cons c s =>
      refine ⟨nofun, ?_⟩
      rw [List.cons_append]
      unfold readPower at h ⊢
      rw [← List.cons_append, hr.takeWhile_append, hr.dropWhile_append]
      dsimp only at h ⊢
      split at h
      · cases h
      · rename_i hdigits
        rw [if_neg hdigits]
        split at h
        · cases h
        · rename_i hsize
          rw [if_neg hsize]
          obtain ⟨rfl, hall⟩ := bind_ofParts_eq h
          exact hall _

theorem Ends.readExponent_append {r : List Char} (hr : Ends rest)
    (h : readExponent negative word e s = .ok (n, r)) :
    readExponent negative word e (s ++ rest) = .ok (n, r ++ rest) := by
  rw [readExponent_eq] at h ⊢
  obtain ⟨hne, happend⟩ := hr.readPower_append h
  rw [signOf_append hne]
  exact happend

theorem Ends.readTail_append {r : List Char} (hr : Ends rest)
    (h : readTail negative word e s = .ok (n, r)) :
    readTail negative word e (s ++ rest) = .ok (n, r ++ rest) := by
  cases s with
  | nil =>
      obtain ⟨rfl, hall⟩ := bind_ofParts_eq h
      cases rest with
      | nil => exact h
      | cons c rest =>
          obtain ⟨-, -, he, hE⟩ := hr c rfl
          rw [List.nil_append, readTail, if_neg (by simp [he, hE])]
          exact hall _
  | cons c s =>
      rw [List.cons_append]
      unfold readTail at h ⊢
      dsimp only at h ⊢
      split at h
      · rename_i hc
        rw [if_pos hc]
        exact hr.readExponent_append h
      · rename_i hc
        rw [if_neg hc]
        obtain ⟨rfl, hall⟩ := bind_ofParts_eq h
        exact hall _

theorem Ends.readFraction_append {r : List Char} (hr : Ends rest)
    (h : readFraction negative word e s = .ok (n, r)) :
    readFraction negative word e (s ++ rest) = .ok (n, r ++ rest) := by
  unfold readFraction at h ⊢
  rw [hr.startsWithDigit_append, hr.takeWord_append]
  split at h
  · rename_i hdigit
    rw [if_pos hdigit]
    dsimp only at h ⊢
    rw [hr.dropWhile_append, List.length_append, List.length_append, Nat.add_sub_add_right]
    exact hr.readTail_append h
  · split at h <;> cases h

-- What the reader makes of the digits of a whole part when nothing more belongs to it.
def readWhole (negative : Bool) (word dropped : Nat) (s : List Char) :
    Except ReadError (Number × List Char) :=
  if dropped = 0 then .ok (exactOrDouble negative word, s)
  else do
    let n ← ofParts negative word dropped
    return (n, s)

theorem readWhole_eq {r : List Char} (h : readWhole negative word dropped s = .ok (n, r)) :
    r = s ∧ ∀ t, readWhole negative word dropped t = .ok (n, t) := by
  by_cases hd : dropped = 0
  · simp only [readWhole, if_pos hd] at h ⊢
    cases h
    exact ⟨rfl, fun _ => rfl⟩
  · simp only [readWhole, if_neg hd] at h ⊢
    exact bind_ofParts_eq h

theorem readRest_cons {c : Char} (hc : c ≠ '.') (s : List Char) :
    readRest negative word dropped (c :: s) =
      if c = 'e' ∨ c = 'E' then readExponent negative word dropped s
      else readWhole negative word dropped (c :: s) := by
  unfold readRest readWhole
  split <;> simp_all

theorem Ends.readRest_eq (hr : Ends rest) (word dropped : Nat) :
    readRest negative word dropped rest = readWhole negative word dropped rest := by
  cases rest with
  | nil => rfl
  | cons c rest =>
      obtain ⟨-, hdot, he, hE⟩ := hr c rfl
      rw [readRest_cons hdot, if_neg (by simp [he, hE])]

theorem Ends.readRest_append {r : List Char} (hr : Ends rest)
    (h : readRest negative word dropped s = .ok (n, r)) :
    readRest negative word dropped (s ++ rest) = .ok (n, r ++ rest) := by
  cases s with
  | nil =>
      obtain ⟨rfl, hall⟩ := readWhole_eq h
      rw [List.nil_append, hr.readRest_eq]
      exact hall rest
  | cons c s =>
      rw [List.cons_append]
      by_cases hdot : c = '.'
      · subst hdot
        exact hr.readFraction_append h
      · rw [readRest_cons hdot] at h ⊢
        split at h
        · rename_i hc
          rw [if_pos hc]
          exact hr.readExponent_append h
        · rename_i hc
          rw [if_neg hc]
          obtain ⟨rfl, hall⟩ := readWhole_eq h
          exact hall _

theorem readMagnitude_zero (s : List Char) : readMagnitude negative ('0' :: s) =
    if startsWithDigit s then .error .malformed else readRest negative 0 0 s := rfl

theorem readMagnitude_cons {c : Char} (hc : c ≠ '0') (s : List Char) :
    readMagnitude negative (c :: s) =
      if isDigit c then
        readRest negative (takeWord (digitValue c) s).1
          ((takeWord (digitValue c) s).2.length -
            ((takeWord (digitValue c) s).2.dropWhile isDigit).length)
          ((takeWord (digitValue c) s).2.dropWhile isDigit)
      else .error .malformed := by
  unfold readMagnitude
  split <;> simp_all

-- What a number reads as does not depend on what follows it.
theorem Ends.readMagnitude_append {r : List Char} (hr : Ends rest)
    (h : readMagnitude negative s = .ok (n, r)) :
    readMagnitude negative (s ++ rest) = .ok (n, r ++ rest) := by
  cases s with
  | nil => cases h
  | cons c s =>
      rw [List.cons_append]
      by_cases hc : c = '0'
      · subst hc
        rw [readMagnitude_zero] at h ⊢
        rw [hr.startsWithDigit_append]
        split at h
        · cases h
        · rename_i hdigit
          rw [if_neg hdigit]
          exact hr.readRest_append h
      · rw [readMagnitude_cons hc] at h ⊢
        split at h
        · rename_i hdigit
          rw [if_pos hdigit, hr.takeWord_append, hr.dropWhile_append, List.length_append,
            List.length_append, Nat.add_sub_add_right]
          exact hr.readRest_append h
        · cases h

-- ### Whole numbers

-- A run of digits behind those that `word` stands for.
theorem takeWord_digits (hs : ∀ c ∈ s, isDigit c = true)
    (hw : s.foldl (fun acc c => acc * 10 + digitValue c) word < Nat.pow 2 64) :
    takeWord word s = (s.foldl (fun acc c => acc * 10 + digitValue c) word, []) := by
  have grows (s : List Char) (w : Nat) :
      w ≤ s.foldl (fun acc c => acc * 10 + digitValue c) w := by
    induction s generalizing w with
    | nil => exact Nat.le_refl _
    | cons c s ih =>
        have hstep : w ≤ w * 10 + digitValue c := by omega
        exact Nat.le_trans hstep (ih _)
  induction s generalizing word with
  | nil => rfl
  | cons c s ih =>
      have hstep := Nat.lt_of_le_of_lt (grows s (word * 10 + digitValue c)) hw
      rw [takeWord, if_pos (by rw [hs c (List.mem_cons_self ..), decide_eq_true hstep]; rfl)]
      exact ih (fun d hd => hs d (List.mem_cons_of_mem _ hd)) hw

theorem readMagnitude_ofNat {k : Nat} (hk : k < Nat.pow 2 64) :
    readMagnitude negative (Text.ofNat k) = .ok (exactOrDouble negative k, []) := by
  by_cases hzero : k = 0
  · subst hzero
    rfl
  have hdigits : ∀ c ∈ Text.ofNat k, isDigit c = true := fun c => isDigit_of_mem_ofNat
  have hvalue := digitsValue_ofNat k
  have hhead := head?_ofNat hzero
  cases hs : Text.ofNat k with
  | nil => exact absurd hs Nat.toDigits_ne_nil
  | cons c s =>
      rw [hs] at hdigits hvalue hhead
      have hc : c ≠ '0' := by
        rintro rfl
        exact hhead rfl
      -- the first digit is read by itself
      have hfold : s.foldl (fun acc c => acc * 10 + digitValue c) (digitValue c) = k := by
        rw [digitsValue, List.foldl_cons, Nat.zero_mul, Nat.zero_add] at hvalue
        exact hvalue
      have hword : takeWord (digitValue c) s = (k, []) := by
        rw [takeWord_digits (fun d hd => hdigits d (List.mem_cons_of_mem _ hd)), hfold]
        rwa [hfold]
      rw [readMagnitude_cons hc, if_pos (hdigits c (List.mem_cons_self ..)), hword]
      rfl

end Spiderworks.Json
