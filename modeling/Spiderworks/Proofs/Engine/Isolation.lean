import Spiderworks.Proofs.Engine.ProgramDirectory
import Spiderworks.Proofs.Output.Scan

namespace Spiderworks

-- ### Names of executions

namespace ExecutionName

variable {c : Char} {n : Nat}

theorem toList_ofNumber (n : Nat) : (ofNumber n).toList =
    digits 8 (n / Nat.pow 16 24) ++ '-' :: (digits 4 (n / Nat.pow 16 20) ++
      '-' :: (digits 4 (n / Nat.pow 16 16) ++ '-' :: (digits 4 (n / Nat.pow 16 12) ++
        '-' :: digits 12 (n / Nat.pow 16 0)))) := by
  simp [ofNumber, groups, String.intercalate_cons_cons]

theorem notMem_digits (hc : ∀ k < 16, Text.hexDigit k ≠ c) (width : Nat) : c ∉ digits width n := by
  intro hmem
  obtain ⟨k, -, hk⟩ := List.mem_map.mp hmem
  exact hc _ (Nat.mod_lt _ (by decide)) hk

theorem isDownward_ofNumber (n : Nat) : Path.IsDownward (ofNumber n) := by
  have hslash (width k : Nat) : '/' ∉ digits width k := notMem_digits (by decide) width
  have hsign : '-' ∈ (ofNumber n).toList := by simp [toList_ofNumber]
  have hne (s : String) (hs : '-' ∉ s.toList) : ofNumber n ≠ s := fun heq => hs (heq ▸ hsign)
  refine ⟨⟨hne "" (by decide), hne "." (by decide), ?_⟩, hne ".." (by decide)⟩
  simp [toList_ofNumber, hslash]

end ExecutionName

namespace Layout

variable {l : Layout} {r r' : Ingest.Run}

-- ### Below the directories of the layout

def streamLogs (l : Layout) (r : Ingest.Run) : List String :=
  [Stream.output, Stream.errors].map (l.streamLog r.spider r.execution)

-- Everything that a run has is below the directory for things of its kind.
structure Confined (l : Layout) (r : Ingest.Run) : Prop where
  output : Path.Below l.files (l.outputDir r.spider r.execution)
  logs : ∀ path ∈ l.streamLogs r, Path.Below l.logs path
  programs : ∀ extension ∈ programExtensions,
    Path.Below l.scripts (l.script r.spider r.execution extension)

theorem isDownward_spiderName (spider : Int) : Path.IsDownward (spiderName spider) :=
  ⟨isPart_spiderName, spiderName_ne_up⟩

theorem mem_streamLogs {path : String} : path ∈ l.streamLogs r ↔
    ∃ stream, path = l.streamLog r.spider r.execution stream := by
  constructor
  · intro hpath
    obtain ⟨stream, -, rfl⟩ := List.mem_map.mp hpath
    exact ⟨stream, rfl⟩
  · rintro ⟨stream, rfl⟩
    exact List.mem_map_of_mem (by cases stream <;> decide)

theorem below_outputDir (h : Path.IsDownward r.execution) :
    Path.Below l.files (l.outputDir r.spider r.execution) :=
  (isDownward_spiderName r.spider).below_join.trans h.below_join

theorem below_streamLog (h : '/' ∉ r.execution.toList) (stream : Stream) :
    Path.Below l.logs (l.streamLog r.spider r.execution stream) := by
  have hname : Path.IsDownward (logName r.execution stream) := ⟨isPart_logName h, logName_ne_up⟩
  exact (isDownward_spiderName r.spider).below_join.trans hname.below_join

theorem below_script (h : '/' ∉ r.execution.toList) {extension : String}
    (hextension : extension ∈ programExtensions) :
    Path.Below l.scripts (l.script r.spider r.execution extension) := by
  have hname : Path.IsDownward (programName r.spider r.execution extension) :=
    ⟨isPart_programName h (plain_of_mem hextension).1, programName_ne_up⟩
  exact hname.below_join

theorem confined (h : Path.IsDownward r.execution) : Confined l r where
  output := below_outputDir h
  logs path hpath := by
    obtain ⟨stream, rfl⟩ := mem_streamLogs.mp hpath
    exact below_streamLog h.slash stream
  programs _ hextension := below_script h.slash hextension

-- ### Whose an artifact is

theorem streamLog_inj {stream stream' : Stream} (h : '/' ∉ r.execution.toList)
    (h' : '/' ∉ r'.execution.toList)
    (heq : Path.parts (l.streamLog r.spider r.execution stream) =
      Path.parts (l.streamLog r'.spider r'.execution stream')) : r = r' ∧ stream = stream' := by
  obtain ⟨spider, execution⟩ := r
  obtain ⟨spider', execution'⟩ := r'
  simp only [parts_streamLog h, parts_streamLog h', List.append_assoc,
    List.append_cancel_left_eq] at heq
  obtain ⟨hspider, hlog⟩ := List.cons.inj heq
  obtain ⟨rfl, hstream⟩ := logName_inj (List.cons.inj hlog).1
  obtain rfl := spiderName_injective hspider
  exact ⟨rfl, hstream⟩

theorem script_inj {extension extension' : String} (h : '/' ∉ r.execution.toList)
    (h' : '/' ∉ r'.execution.toList) (hextension : extension ∈ programExtensions)
    (hextension' : extension' ∈ programExtensions)
    (heq : Path.parts (l.script r.spider r.execution extension) =
      Path.parts (l.script r'.spider r'.execution extension')) : r = r' := by
  obtain ⟨spider, execution⟩ := r
  obtain ⟨spider', execution'⟩ := r'
  rw [parts_script h (plain_of_mem hextension).1, parts_script h' (plain_of_mem hextension').1,
    List.append_cancel_left_eq] at heq
  obtain ⟨rfl, rfl, -⟩ := programName_inj (plain_of_mem hextension).2
    (plain_of_mem hextension').2 (List.cons.inj heq).1
  rfl

-- An output directory is as far down as any other, so it leads into no other.
theorem eq_of_outputDir_within (h : Path.IsPart r.execution) (h' : Path.IsPart r'.execution)
    (hwithin : Path.parts (l.outputDir r.spider r.execution) <+:
      Path.parts (l.outputDir r'.spider r'.execution)) : r = r' := by
  obtain ⟨spider, execution⟩ := r
  obtain ⟨spider', execution'⟩ := r'
  simp only [parts_outputDir h, parts_outputDir h', List.append_assoc,
    List.prefix_append_right_inj, List.singleton_append, List.cons_prefix_cons,
    List.prefix_rfl, and_true] at hwithin
  obtain ⟨hspider, rfl⟩ := hwithin
  obtain rfl := spiderName_injective hspider
  rfl

-- ### Two runs

-- The artifacts of two runs are in different places. Paths are compared part by part: as a text,
-- the path of an output directory may well begin with that of another.
structure Isolated (l : Layout) (r r' : Ingest.Run) : Prop where
  outputs : Path.parts (l.outputDir r.spider r.execution) ≠
    Path.parts (l.outputDir r'.spider r'.execution)
  outside : ¬ Path.parts (l.outputDir r.spider r.execution) <+:
    Path.parts (l.outputDir r'.spider r'.execution)
  outside' : ¬ Path.parts (l.outputDir r'.spider r'.execution) <+:
    Path.parts (l.outputDir r.spider r.execution)
  logs : ((l.streamLogs r ++ l.streamLogs r').map Path.parts).Nodup
  programs : ∀ extension ∈ programExtensions, ∀ extension' ∈ programExtensions,
    Path.parts (l.script r.spider r.execution extension) ≠
      Path.parts (l.script r'.spider r'.execution extension')

theorem nodup_streamLogs (h : '/' ∉ r.execution.toList) :
    ((l.streamLogs r).map Path.parts).Nodup := by
  rw [streamLogs, List.map_map]
  exact List.Nodup.map (fun _ _ heq => (streamLog_inj h h heq).2) (by decide)

theorem disjoint_streamLogs (h : '/' ∉ r.execution.toList) (h' : '/' ∉ r'.execution.toList)
    (hne : r ≠ r') :
    ((l.streamLogs r).map Path.parts).Disjoint ((l.streamLogs r').map Path.parts) := by
  intro ps hps hps'
  obtain ⟨path, hpath, rfl⟩ := List.mem_map.mp hps
  obtain ⟨path', hpath', heq⟩ := List.mem_map.mp hps'
  obtain ⟨stream, rfl⟩ := mem_streamLogs.mp hpath
  obtain ⟨stream', rfl⟩ := mem_streamLogs.mp hpath'
  exact hne (streamLog_inj h' h heq).1.symm

theorem isolated (h : Path.IsDownward r.execution) (h' : Path.IsDownward r'.execution)
    (hne : r ≠ r') : Isolated l r r' where
  outputs heq := hne (eq_of_outputDir_within (l := l) h.toIsPart h'.toIsPart
    (heq ▸ List.prefix_rfl))
  outside hwithin := hne (eq_of_outputDir_within h.toIsPart h'.toIsPart hwithin)
  outside' hwithin := hne (eq_of_outputDir_within h'.toIsPart h.toIsPart hwithin).symm
  logs := by
    rw [List.map_append]
    exact (nodup_streamLogs h.slash).append (nodup_streamLogs h'.slash)
      (disjoint_streamLogs h.slash h'.slash hne)
  programs _ hextension _ hextension' heq :=
    hne (script_inj h.slash h'.slash hextension hextension' heq)

-- ### Scans

variable {d : Disk} {way : List String} {bytes : List UInt8}

theorem below_leftPath (h : Ingest.Left l r d way bytes) (hd : d.WellFormed) :
    Path.Below (l.outputDir r.spider r.execution) (Ingest.leftPath l r way) := by
  have hnamed := h.named hd
  have hparts : ∀ name ∈ way, Path.IsPart name := fun name hname => (hnamed name hname).toIsPart
  obtain ⟨_, -, -, hmeets⟩ := h
  refine ⟨?_, way, hmeets.ne_nil, fun name hname => ⟨hparts name hname, (hnamed name hname).up⟩,
    Ingest.parts_leftPath hparts⟩
  rw [Ingest.leftPath, Path.isAbsolute_join_eq, Path.isAbsolute_intercalate hparts, Bool.or_false]

-- What is below the output directory of one run is not below that of another one.
theorem not_within_of_below {path : String} (h : Path.IsPart r.execution)
    (h' : Path.IsPart r'.execution) (hne : r ≠ r')
    (hpath : Path.Below (l.outputDir r.spider r.execution) path) :
    ¬ Path.parts (l.outputDir r'.spider r'.execution) <+: Path.parts path := by
  intro hwithin
  obtain ⟨way, -, -, hparts⟩ := hpath.descends
  have hown : Path.parts (l.outputDir r.spider r.execution) <+: Path.parts path :=
    hparts ▸ List.prefix_append _ way
  -- Both of the directories are ways into one path, and equally long ones.
  have hlength : (Path.parts (l.outputDir r.spider r.execution)).length ≤
      (Path.parts (l.outputDir r'.spider r'.execution)).length := by
    rw [parts_outputDir h, parts_outputDir h']
    simp
  exact hne (eq_of_outputDir_within h h'
    (List.prefix_of_prefix_length_le hown hwithin hlength))

-- ### The whole

-- Runs whose executions have plain names, as all have that are generated, are apart on the disk;
-- and a scan for one of them registers nothing that is in the output directory of another.
theorem isolates_runs (l : Layout) :
    (∀ n, Path.IsDownward (ExecutionName.ofNumber n)) ∧
    (∀ r : Ingest.Run, Path.IsDownward r.execution →
      Confined l r ∧ ((l.streamLogs r).map Path.parts).Nodup) ∧
    (∀ r r' : Ingest.Run, Path.IsDownward r.execution → Path.IsDownward r'.execution → r ≠ r' →
      Isolated l r r') ∧
    ∀ (clock : Time.Clock) (r : Ingest.Run) (x y : Site) (count : Nat),
      Path.IsDownward r.execution → x.disk.WellFormed →
      x.run (Ingest.scan l clock r) = (.ok count, y) →
      ∃ rows, Ingest.Scanned l clock r x.disk x.shared.store rows y.shared.store ∧
        rows.length = count ∧
        ∀ row ∈ rows, Path.Below (l.outputDir r.spider r.execution) row.path ∧
          ∀ r' : Ingest.Run, Path.IsDownward r'.execution → r ≠ r' →
            ¬ Path.parts (l.outputDir r'.spider r'.execution) <+: Path.parts row.path := by
  refine ⟨ExecutionName.isDownward_ofNumber, fun r h => ⟨confined h, nodup_streamLogs h.slash⟩,
    fun r r' h h' hne => isolated h h' hne, fun clock r x y count h hd hscan => ?_⟩
  obtain ⟨rows, hscanned, hlength⟩ := Ingest.scanned hd hscan
  refine ⟨rows, hscanned, hlength, fun row hrow => ?_⟩
  obtain ⟨way, bytes, id, i, hleft, rfl⟩ := hscanned.origin row hrow
  have hbelow := below_leftPath hleft hd
  exact ⟨hbelow, fun r' h' hne => not_within_of_below h.toIsPart h'.toIsPart hne hbelow⟩

-- As a text, the path of this output directory begins with that of the other one.
def alikeRun : Ingest.Run := ⟨1, "e_stdout"⟩

theorem isolates_runs_alike :
    (Ingest.smallLayout.outputDir 1 "e").toList <+:
      (Ingest.smallLayout.outputDir 1 "e_stdout").toList ∧
    Confined Ingest.smallLayout alikeRun ∧
    Isolated Ingest.smallLayout Ingest.smallRun alikeRun ∧
    ∃ count y rows, Ingest.smallSite.run
        (Ingest.scan Ingest.smallLayout (Ingest.ticking 5) Ingest.smallRun) = (.ok count, y) ∧
      Ingest.Scanned Ingest.smallLayout (Ingest.ticking 5) Ingest.smallRun Ingest.smallDisk
        Ingest.smallSite.shared.store rows y.shared.store ∧
      "/f/spider_1/e/sub/a.json" ∈ rows.map (·.path) ∧
      ∀ row ∈ rows, ¬ Path.parts "/f/spider_1/e_stdout" <+: Path.parts row.path := by
  obtain ⟨-, hconfined, hisolated, hscan⟩ := isolates_runs Ingest.smallLayout
  have hsmall : Path.IsDownward Ingest.smallRun.execution := by decide
  have halike : Path.IsDownward alikeRun.execution := by decide
  have hne : Ingest.smallRun ≠ alikeRun := by decide
  obtain ⟨count, y, hrun⟩ : ∃ count y, Ingest.smallSite.run
      (Ingest.scan Ingest.smallLayout (Ingest.ticking 5) Ingest.smallRun) = (.ok count, y) := by
    obtain ⟨count, y, hrun, -⟩ := Ingest.exists_run_registerAll _ Ingest.serves_small
    exact ⟨count, y, (Ingest.scan_eq _).trans hrun⟩
  obtain ⟨rows, hscanned, -, hapart⟩ := hscan _ _ _ _ _ hsmall Ingest.wellFormed_small hrun
  have hpath : Ingest.leftPath Ingest.smallLayout Ingest.smallRun ["sub", "a.json"] =
      "/f/spider_1/e/sub/a.json" := by decide
  have hdir : Ingest.smallLayout.outputDir 1 "e_stdout" = "/f/spider_1/e_stdout" := by decide
  refine ⟨by decide, (hconfined _ halike).1, hisolated _ _ hsmall halike hne, count, y, rows, hrun,
    hscanned, ?_, fun row hrow => ?_⟩
  · exact (hscanned.paths _).mpr ⟨rfl, _, _, Ingest.left_small, hpath.symm⟩
  · exact hdir ▸ (hapart row hrow).2 alikeRun halike hne

end Layout

end Spiderworks
