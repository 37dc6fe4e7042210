import Spiderworks.Engine.DirectCall
import Spiderworks.Proofs.Json.Objects

namespace Spiderworks

-- ### Trimmed texts

namespace Text

variable {c : Char} {s : List Char}

theorem trimEnd_prefix (s : List Char) : trimEnd s <+: s := by
  have h := List.reverse_prefix.mpr (List.dropWhile_suffix (l := s.reverse) isBlank)
  rwa [List.reverse_reverse] at h

theorem isBlank_of_head?_dropWhile (h : (s.dropWhile isBlank).head? = some c) :
    isBlank c = false := by
  have hnot := List.head?_dropWhile_not isBlank s
  rwa [h] at hnot

theorem isBlank_of_head?_trim (h : (trim s).head? = some c) : isBlank c = false := by
  obtain ⟨more, hmore⟩ := trimEnd_prefix (trimStart s)
  refine isBlank_of_head?_dropWhile (s := s) ?_
  rw [← trimStart, ← hmore, List.head?_append, show trimEnd (trimStart s) = trim s from rfl, h]
  rfl

theorem isBlank_of_getLast?_trim (h : (trim s).getLast? = some c) : isBlank c = false := by
  rw [trim, trimEnd, List.getLast?_reverse] at h
  exact isBlank_of_head?_dropWhile h

end Text

theorem Json.isSpace_of_not_isBlank {c : Char} (h : Text.isBlank c = false) :
    isSpace c = false := by
  rw [Bool.eq_false_iff] at h ⊢
  intro hspace
  simp only [isSpace, Bool.or_eq_true, beq_iff_eq] at hspace
  refine h ?_
  rcases hspace with ((rfl | rfl) | rfl) | rfl <;> decide

-- ### The line that counts

-- A line that is a JSON object, with nothing but blank characters around it.
def IsObject (line : List Char) (object : List (String × Json)) : Prop :=
  Json.read? (String.ofList (Text.trim line)) = some (.obj object)

-- The object on the last line of an output that is one.
def LastObject (output : String) (object : List (String × Json)) : Prop :=
  ∃ before line after, Text.lines output.toList = before ++ line :: after ∧
    IsObject line object ∧ ∀ later ∈ after, ∀ other, ¬IsObject later other

variable {output : String} {line : List Char} {object : List (String × Json)}

-- The braces that are looked for first are those of an object.
theorem IsObject.isObjectLine (h : IsObject line object) :
    isObjectLine (Text.trim line) = true := by
  have hread : Json.readChars (Text.trim line) = .ok (.obj object) := by
    rwa [IsObject, Json.read?_eq_some_iff, String.toList_ofList] at h
  obtain ⟨hhead, hlast⟩ := Json.braces_of_read hread
    (fun c hc => Json.isSpace_of_not_isBlank (Text.isBlank_of_head?_trim hc))
    fun c hc => Json.isSpace_of_not_isBlank (Text.isBlank_of_getLast?_trim hc)
  simp [Spiderworks.isObjectLine, hhead, hlast]

theorem objectOfLine?_eq_some_iff :
    objectOfLine? (Text.trim line) = some object ↔ IsObject line object := by
  constructor
  · intro h
    unfold objectOfLine? at h
    split at h
    · split at h
      · rename_i hread
        cases h
        exact hread
      · cases h
    · cases h
  · intro h
    rw [objectOfLine?, if_pos h.isObjectLine, h]

theorem reportedObject?_eq_some_iff :
    reportedObject? output = some object ↔ LastObject output object := by
  rw [reportedObject?, List.findSome?_map, List.findSome?_eq_some_iff]
  constructor
  · rintro ⟨after, line, before, hlines, hline, hafter⟩
    refine ⟨before.reverse, line, after.reverse, ?_, objectOfLine?_eq_some_iff.mp hline, ?_⟩
    · simpa using congrArg List.reverse hlines
    · intro later hlater other hother
      have hnone := hafter later (List.mem_reverse.mp hlater)
      rw [Function.comp_apply, objectOfLine?_eq_some_iff.mpr hother] at hnone
      cases hnone
  · rintro ⟨before, line, after, hlines, hline, hafter⟩
    refine ⟨after.reverse, line, before.reverse, by simp [hlines],
      objectOfLine?_eq_some_iff.mpr hline, fun later hlater => ?_⟩
    refine Option.eq_none_iff_forall_ne_some.mpr fun other hother => ?_
    exact hafter later (List.mem_reverse.mp hlater) other (objectOfLine?_eq_some_iff.mp hother)

-- ### The result

namespace DirectCall

variable {s : Setup} {d : Definition} {x : String} {o : DirectOutcome}

end DirectCall

-- What a result tells of an outcome. Whatever a process has written that was not in time, or that
-- has failed, nothing of it is data.
structure DirectResult.Tells (r : DirectResult) (o : DirectOutcome) : Prop where
  success : r.success = true ↔ ∃ out object, o = .completed out ∧ out.code = 0 ∧
    LastObject out.output object ∧ Entries.get? object "success" = some (.bool true)
  failed : (∀ out, o = .completed out → out.code ≠ 0) →
    r.success = false ∧ r.data = [] ∧ r.count = 0

end Spiderworks
