import Mathlib.Data.List.TakeWhile
import Spiderworks.Proofs.Text.Digits

namespace Spiderworks.Text

variable {s before after : List Char}

theorem trimStart_append_left (hbefore : isBlankText before = true) (s : List Char) :
    trimStart (before ++ s) = trimStart s :=
  List.dropWhile_append_of_pos (List.all_eq_true.mp hbefore)

theorem trimEnd_append_right (s : List Char) (hafter : isBlankText after = true) :
    trimEnd (s ++ after) = trimEnd s := by
  have hreverse : ∀ c ∈ after.reverse, isBlank c = true :=
    fun c hc => List.all_eq_true.mp hafter c (List.mem_reverse.mp hc)
  rw [trimEnd, List.reverse_append, List.dropWhile_append_of_pos hreverse, trimEnd]

theorem trim_append_left (hbefore : isBlankText before = true) (s : List Char) :
    trim (before ++ s) = trim s := by
  rw [trim, trimStart_append_left hbefore, trim]

-- Blanks behind a blank text are taken off at its start, those behind another one at its end.
theorem trim_append_right (s : List Char) (hafter : isBlankText after = true) :
    trim (s ++ after) = trim s := by
  induction s with
  | nil =>
      rw [List.nil_append, trim, (trimStart_eq_nil_iff after).mpr hafter]
      rfl
  | cons c s ih =>
      cases hc : isBlank c with
      | true =>
          have hblank : isBlankText [c] = true := by simp [isBlankText, hc]
          rw [List.cons_append, ← List.singleton_append, trim_append_left hblank, ih,
            ← List.singleton_append (l := s), trim_append_left hblank]
      | false =>
          have hstays (rest : List Char) : trimStart (c :: rest) = c :: rest := by
            simp [trimStart, hc]
          rw [List.cons_append, trim, hstays, trim, hstays, ← List.cons_append,
            trimEnd_append_right _ hafter]

-- What is left at the start of a text that is not blank is no blank, so it is not taken off
-- the end.
theorem trim_eq_nil_iff (s : List Char) : trim s = [] ↔ isBlankText s = true := by
  rw [← trimStart_eq_nil_iff, trim, trimEnd, List.reverse_eq_nil_iff]
  refine ⟨fun h => ?_, fun h => by rw [h]; rfl⟩
  have hall := List.dropWhile_eq_nil_iff.mp h
  cases hstart : trimStart s with
  | nil => rfl
  | cons c rest =>
      have hblank : isBlank c = true := hall c (by simp [hstart])
      have hhead := List.head?_dropWhile_not isBlank s
      rw [← trimStart, hstart] at hhead
      exact absurd hblank (Bool.eq_false_iff.mp hhead)

theorem trimString_eq_empty_iff (s : String) :
    trimString s = "" ↔ isBlankText s.toList = true := by
  rw [← trim_eq_nil_iff, trimString, ← String.toList_inj, String.toList_ofList]
  rfl

theorem trim_surrounded (hbefore : isBlankText before = true) (s : List Char)
    (hafter : isBlankText after = true) : trim (before ++ s ++ after) = trim s := by
  rw [trim_append_right _ hafter, trim_append_left hbefore]

end Spiderworks.Text
