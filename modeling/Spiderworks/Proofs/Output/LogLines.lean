import Spiderworks.Output.Lines
import Spiderworks.Proofs.Text.Trimmed

namespace Spiderworks

open Text (dropReturn linesAfter trim trim_append_right)

-- What is left of lines when they are trimmed and the blank ones are dropped.
def trimmedLines (ls : List (List Char)) : List (List Char) := (ls.map trim).filter (!·.isEmpty)

theorem trimmedLines_append (ls ms : List (List Char)) :
    trimmedLines (ls ++ ms) = trimmedLines ls ++ trimmedLines ms := by
  rw [trimmedLines, List.map_append, List.filter_append]
  rfl

theorem trim_dropReturn (line : List Char) :
    trim (dropReturn line).reverse = trim line.reverse := by
  unfold dropReturn
  split
  · rw [List.reverse_cons, trim_append_right _ (by decide)]
  · rfl

-- `line` is the beginning of the first line, last character first. The line that is missing where a
-- text ends in a line feed is a blank one.
theorem trimmedLines_linesAfter (line s : List Char) :
    trimmedLines (linesAfter line s) = trimmedLines (s.splitOnPPrepend (· == '\n') line) := by
  induction s generalizing line with
  | nil => cases line <;> rfl
  | cons c s ih =>
      rw [linesAfter, List.splitOnPPrepend_cons_eq_if]
      by_cases hc : c = '\n'
      · have hfirst : trimmedLines [(dropReturn line).reverse] = trimmedLines [line.reverse] := by
          rw [trimmedLines, List.map_singleton, trim_dropReturn]
          rfl
        rw [if_pos hc, if_pos (beq_iff_eq.mpr hc), ← List.singleton_append, trimmedLines_append,
          hfirst, ih, ← trimmedLines_append, List.splitOnPPrepend_nil_right]
        rfl
      · rw [if_neg hc, if_neg (by simpa using hc), ih]

theorem logLines_eq (text : String) :
    logLines text = (trimmedLines (text.toList.splitOn '\n')).map String.ofList :=
  congrArg (List.map String.ofList) (trimmedLines_linesAfter [] text.toList)

theorem logLines_append_newline (a b : String) :
    logLines (a ++ "\n" ++ b) = logLines a ++ logLines b := by
  have htext : (a ++ "\n" ++ b).toList = a.toList ++ '\n' :: b.toList := by
    rw [String.toList_append, String.toList_append, List.append_assoc]
    rfl
  rw [logLines_eq, htext, List.splitOn_append_cons_self, trimmedLines_append, List.map_append,
    ← logLines_eq, ← logLines_eq]

-- However an output is cut at its line feeds.
theorem logLines_intercalate (pieces : List String) :
    logLines ("\n".intercalate pieces) = pieces.flatMap logLines := by
  induction pieces with
  | nil => rfl
  | cons a rest ih =>
      cases rest with
      | nil =>
          rw [String.intercalate_singleton]
          exact (List.flatMap_singleton ..).symm
      | cons b rest =>
          rw [List.flatMap_cons, ← ih, String.intercalate_cons_cons, logLines_append_newline]

theorem mem_lineEntries {spider : Int} {execution output errors : String} {n : NewLog}
    (hn : n ∈ lineEntries spider execution output errors) :
    n.spider = spider ∧ n.execution = some execution := by
  rcases List.mem_append.mp hn with hn | hn
  · obtain ⟨line, -, rfl⟩ := List.mem_map.mp hn
    exact ⟨rfl, rfl⟩
  · obtain ⟨line, -, rfl⟩ := List.mem_map.mp hn
    exact ⟨rfl, rfl⟩

end Spiderworks
