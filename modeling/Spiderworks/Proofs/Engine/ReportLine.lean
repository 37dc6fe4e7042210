import Spiderworks.Proofs.Engine.Reports
import Spiderworks.Proofs.Json.Compact
import Spiderworks.Proofs.Worker.Documents

namespace Spiderworks

-- ### Lines

namespace Text

theorem linesAfter_line {s : List Char} (h : '\n' ∉ s) (line t : List Char) :
    linesAfter line (s ++ '\n' :: t) = (dropReturn (s.reverse ++ line)).reverse :: lines t := by
  induction s generalizing line with
  | nil => rfl
  | cons c s ih =>
      have hc : c ≠ '\n' := fun hc => h (hc ▸ List.mem_cons_self ..)
      rw [List.cons_append, linesAfter, if_neg hc, ih (fun hs => h (List.mem_cons_of_mem c hs)),
        List.reverse_cons, List.append_assoc]
      rfl

theorem lines_line {s : List Char} {d : Char} (h : '\n' ∉ s ++ [d]) (hd : d ≠ '\r')
    (t : List Char) : lines (s ++ [d] ++ '\n' :: t) = (s ++ [d]) :: lines t := by
  have hreturn : dropReturn (d :: s.reverse) = d :: s.reverse := by
    unfold dropReturn
    split
    · rename_i heq
      exact absurd (List.cons.inj heq).1 hd
    · rfl
  rw [lines, linesAfter_line h, List.append_nil, List.reverse_append, List.reverse_singleton,
    List.singleton_append, hreturn, List.reverse_cons, List.reverse_reverse]

end Text

-- ### Objects on lines

-- No line of the output is an object.
def ReportsNothing (output : String) : Prop :=
  ∀ line ∈ Text.lines output.toList, ∀ object, ¬IsObject line object

variable {object : List (String × Json)} {p q : String}

theorem reportedObject?_eq_none_iff {output : String} :
    reportedObject? output = none ↔ ReportsNothing output := by
  rw [reportedObject?, List.findSome?_map, List.findSome?_eq_none_iff]
  constructor
  · intro h line hline object hobject
    have hnone := h line (List.mem_reverse.mpr hline)
    rw [Function.comp_apply, objectOfLine?_eq_some_iff.mpr hobject] at hnone
    cases hnone
  · intro h line hline
    refine Option.eq_none_iff_forall_ne_some.mpr fun object hobject => ?_
    exact h line (List.mem_reverse.mp hline) object (objectOfLine?_eq_some_iff.mp hobject)

theorem exists_reportedObject?_iff (output : String) :
    (∃ object, reportedObject? output = some object) ↔
      ∃ line ∈ Text.lines output.toList, ∃ object, IsObject line object := by
  rw [← Option.ne_none_iff_exists', Ne, reportedObject?_eq_none_iff, ReportsNothing]
  push Not
  rfl

theorem isObject_compact (h : Json.Printable Json.depthLimit (.obj object)) :
    IsObject (Json.compactChars (.obj object)) object := by
  obtain ⟨s, hs⟩ := Json.exists_compactChars_obj object
  have htrim : Text.trim (Json.compactChars (.obj object)) = Json.compactChars (.obj object) := by
    rw [hs]
    exact Text.trim_of_ends (t := '{' :: s) (d := '}') (by decide) (by decide) rfl
  rw [IsObject, htrim]
  exact h.read?_compact

theorem lastObject_of_line (h : Json.Printable Json.depthLimit (.obj object))
    (hq : ReportsNothing q) :
    LastObject (p ++ "\n" ++ Json.compact (.obj object) ++ "\n" ++ q) object := by
  obtain ⟨s, hs⟩ := Json.exists_compactChars_obj object
  have hline : Text.lines (Json.compactChars (.obj object) ++ '\n' :: q.toList) =
      Json.compactChars (.obj object) :: Text.lines q.toList := by
    have hnewline := h.newline_notMem
    rw [hs] at hnewline ⊢
    exact Text.lines_line hnewline (by decide) q.toList
  have htext : (p ++ "\n" ++ Json.compact (.obj object) ++ "\n" ++ q).toList =
      p.toList ++ '\n' :: (Json.compactChars (.obj object) ++ '\n' :: q.toList) := by
    simp [Json.compact]
  refine ⟨Text.lines (p.toList ++ ['\n']), Json.compactChars (.obj object), Text.lines q.toList, ?_,
    isObject_compact h, hq⟩
  rw [htext, Text.lines_append_newline, hline]

-- ### Reports of workers

-- Nothing in the report of a failure is nested more than twice.
theorem Worker.printable_failureSummary {w : Worker.Program} {timestamp : Float}
    (hw : -Int.pow 2 63 ≤ w.spider ∧ w.spider < Int.pow 2 63)
    (ht : (Number.double timestamp).Rereads) (error : String) :
    Json.Printable Json.depthLimit (Worker.failureSummary w timestamp error) := by
  have hkeys : ["success", "data", "count", "url", "timestamp", "spider_id", "execution_id",
      "error"].Nodup := by decide
  have hspider : Number.isExact w.spider = true := Json.isExact_of_bounds hw
  refine .obj hkeys ?_
  simp only [List.forall_mem_cons, List.not_mem_nil, false_imp_iff, implies_true, and_true]
  exact ⟨.bool false, .arr (List.forall_mem_nil _), .whole (k := 0) rfl, .str _, .double ht,
    .whole hspider, .str _, .str _⟩

-- What is found in an output is the object on its last line that is one, and the braces that are
-- looked for first settle nothing. So a printed object is found behind whatever stands before it,
-- if no line after it is an object, and so is the report of a worker about any failure.
theorem report_on_line :
    (∀ output, ((∃ object, reportedObject? output = some object) ↔
        ∃ line ∈ Text.lines output.toList, ∃ object, IsObject line object) ∧
      ∀ object, reportedObject? output = some object ↔ LastObject output object) ∧
    (∀ line object, objectOfLine? (Text.trim line) = some object ↔ IsObject line object) ∧
    (∀ p q object, Json.Printable Json.depthLimit (.obj object) → ReportsNothing q →
      reportedObject? (p ++ "\n" ++ Json.compact (.obj object) ++ "\n" ++ q) = some object) ∧
    ∀ p q (w : Worker.Program) timestamp error,
      -Int.pow 2 63 ≤ w.spider ∧ w.spider < Int.pow 2 63 → (Number.double timestamp).Rereads →
      ReportsNothing q →
      (reportedObject? (p ++ "\n" ++ Worker.line (Worker.failureSummary w timestamp error) ++
        q)).map Json.obj = some (Worker.failureSummary w timestamp error) := by
  refine ⟨fun output => ⟨exists_reportedObject?_iff output, fun _ => reportedObject?_eq_some_iff⟩,
    fun _ _ => objectOfLine?_eq_some_iff, fun p q object h hq => ?_,
    fun p q w timestamp error hw ht hq => ?_⟩
  · exact reportedObject?_eq_some_iff.mpr (lastObject_of_line h hq)
  · have hlast := lastObject_of_line (p := p) (Worker.printable_failureSummary hw ht error) hq
    rw [Worker.line, ← String.append_assoc]
    exact congrArg (Option.map Json.obj) (reportedObject?_eq_some_iff.mpr hlast)

-- A report with a quote, a line feed and a list in it.
def DirectResult.told : List (String × Json) :=
  [("note", .str "a\"b\nc"), ("data", .arr [.ofInt (-3), .obj [("x", .null)]])]

-- The worker's report and the other one stand behind an object of their own, and in front of a line
-- with braces that is none.
theorem report_on_line_noisy :
    Json.Printable Json.depthLimit (.obj DirectResult.told) ∧ ReportsNothing "\x7bbroken\x7d\r" ∧
    reportedObject? ("\x7b\x7d" ++ "\n" ++ Json.compact (.obj DirectResult.told) ++ "\n" ++
      "\x7bbroken\x7d\r") = some DirectResult.told ∧
    (Number.double 1.5).Rereads ∧
    (reportedObject? ("\x7b\x7d" ++ "\n" ++ Worker.line (Worker.failureSummary
      Worker.Program.quoting 1.5 "no\npage") ++ "\x7bbroken\x7d\r")).map Json.obj =
        some (Worker.failureSummary Worker.Program.quoting 1.5 "no\npage") := by
  have hprintable : Json.Printable Json.depthLimit (.obj DirectResult.told) := by
    have hnull : Json.Printable 125 (.obj [("x", .null)]) :=
      .obj (List.nodup_singleton _) (List.forall_mem_singleton.mpr .null)
    have hdata : Json.Printable 126 (.arr [.ofInt (-3), .obj [("x", .null)]]) :=
      .arr (List.forall_mem_cons.mpr ⟨.whole (by decide), List.forall_mem_singleton.mpr hnull⟩)
    exact .obj (by decide)
      (List.forall_mem_cons.mpr ⟨.str _, List.forall_mem_singleton.mpr hdata⟩)
  have hnothing : ReportsNothing "\x7bbroken\x7d\r" := by
    refine reportedObject?_eq_none_iff.mp (Option.isNone_iff_eq_none.mp ?_)
    decide +kernel
  have hdouble : (Number.double 1.5).Rereads := Number.rereads_of_check (by decide +kernel)
  exact ⟨hprintable, hnothing, report_on_line.2.2.1 _ _ _ hprintable hnothing, hdouble,
    report_on_line.2.2.2 _ _ _ _ _ (by decide) hdouble hnothing⟩

end Spiderworks
