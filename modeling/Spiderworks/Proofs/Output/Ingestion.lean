import Spiderworks.Proofs.Output.LogLines
import Spiderworks.Proofs.Output.Scan
import Spiderworks.Proofs.Store.Batches

namespace Spiderworks

open Time (Clock Instant)

def ProcessOutput.text (o : ProcessOutput) : Stream → String
  | .output => o.output
  | .errors => o.errors

namespace Store

-- What is known of files does not depend on the log.
def withoutLog (s : Store) : Store := { s with logs := [], lastLog := 0 }

variable {s t : Store} {rows : List FileRow}

theorem Acquires.logs (h : s.Acquires rows t) : Logs s [] t :=
  .none (by rw [h.store]) (by rw [h.store])

theorem Acquires.withoutLog (h : s.Acquires rows t) : s.withoutLog.Acquires rows t.withoutLog :=
  ⟨by rw [h.store]; rfl, h.distinct, h.unknown⟩

end Store

namespace Ingest

variable {l : Layout} {clock : Clock} {now : Instant} {r : Run} {stream : Stream} {text : String}
  {o : ProcessOutput} {x y : Site} {new : Bool} {report : IngestReport} {e : EngineError}

-- ### One stream

-- Nothing comes of a stream that is empty or cannot be written to the disk.
theorem saveStream_cases (l : Layout) (now : Instant) (r : Run) (stream : Stream) (text : String)
    (x : Site) : x.run (saveStream l now r stream text) = (.ok false, x) ∨
      ∃ d, x.run (saveStream l now r stream text) = Site.run { x with disk := d }
        (Work.session (registerNew now (streamFile l r stream text))) := by
  have hdisk : x.run Work.disk = (.ok x.disk, x) := rfl
  have hset (d : Disk) : x.run (Work.setDisk d) = (.ok (), { x with disk := d }) := rfl
  unfold saveStream
  split
  · exact .inl rfl
  · simp only [Site.run_bind, hdisk]
    split
    · exact .inl rfl
    · rename_i d _
      rw [Site.run_bind, hset]
      exact .inr ⟨d, rfl⟩

-- The store has got these rows for files, by these requests, and its log is as it was.
structure Files (s : SharedStore) (rows : List FileRow) (rs : List Request) (t : SharedStore) :
    Prop where
  acquires : s.store.Acquires rows t.store
  granted : s.Granted rs t
  registrations : rs.count .registerFile = rows.length
  batches : rs.count .appendLogs = 0

namespace Files

variable {s t u : SharedStore} {rows more : List FileRow} {rs qs : List Request}

theorem nothing (s : SharedStore) : Files s [] [] s := ⟨.nothing _, .nothing _, rfl, rfl⟩

theorem trans (h : Files s rows rs t) (h' : Files t more qs u) :
    Files s (rows ++ more) (rs ++ qs) u :=
  ⟨h.acquires.trans h'.acquires, h.granted.trans h'.granted,
    by rw [List.count_append, List.length_append, h.registrations, h'.registrations],
    by rw [List.count_append, h.batches, h'.batches]⟩

end Files

theorem saveStream_ok (h : x.run (saveStream l now r stream text) = (.ok new, y)) :
    ∃ rows rs, Files x.shared rows rs y.shared ∧ rows.length = new.toNat ∧
      ∀ row ∈ rows, ∃ id, row = (streamFile l r stream text).row id now := by
  rcases saveStream_cases l now r stream text x with hnothing | ⟨d, hsession⟩
  · rw [hnothing] at h
    cases h
    exact ⟨[], [], .nothing _, rfl, List.forall_mem_nil _⟩
  · rw [hsession] at h
    obtain ⟨hrun, -⟩ := Site.session_ok h
    have hregisters := SharedStore.registers_of_run hrun
    generalize y.shared = t at hregisters
    cases hregisters with
    | known _ _ hgranted =>
        exact ⟨[], _, ⟨.nothing _, hgranted, rfl, rfl⟩, rfl, List.forall_mem_nil _⟩
    | new _ hrow _ hgranted =>
        exact ⟨_, _, ⟨.filed now hrow, hgranted, rfl, rfl⟩, rfl,
          List.forall_mem_singleton.mpr ⟨_, rfl⟩⟩

theorem saveStream_error (h : x.run (saveStream l now r stream text) = (.error e, y)) :
    y.shared.store = x.shared.store := by
  rcases saveStream_cases l now r stream text x with hnothing | ⟨d, hsession⟩
  · rw [hnothing] at h
    cases h
  · rw [hsession] at h
    rcases Site.session_error h with rfl | ⟨reason, hrun⟩
    · rfl
    · have hregisters := SharedStore.registers_of_run hrun
      generalize y.shared = t at hregisters
      cases hregisters
      rfl

-- ### The lines

def entries (r : Run) (o : ProcessOutput) : List NewLog :=
  lineEntries r.spider r.execution o.output o.errors

theorem saveLines_ok (h : x.run (saveLines clock r o) = (.ok (), y)) :
    y.shared.store = x.shared.store.loggedAll (stamped clock (entries r o)) ∧
      (∀ n ∈ entries r o, x.shared.store.has n.spider = true) ∧
      x.shared.Granted (if (entries r o).isEmpty then [] else [.appendLogs]) y.shared := by
  rw [entries]
  unfold saveLines at h
  split at h
  · rename_i hnone
    cases h
    rw [hnone]
    exact ⟨(Store.loggedAll_nil _).symm, List.forall_mem_nil _, .nothing _⟩
  · rename_i hsome
    obtain ⟨hrun, -⟩ := Site.session_ok h
    rw [if_neg (by simpa using hsome)]
    obtain ⟨hstore, hspider, hgranted⟩ := SharedStore.appendLogs_ok hrun
    refine ⟨hstore, fun n hn => ?_, hgranted⟩
    rw [← map_stamped clock (lineEntries r.spider r.execution o.output o.errors)] at hn
    obtain ⟨entry, hentry, rfl⟩ := List.mem_map.mp hn
    exact hspider entry hentry

theorem saveLines_error (h : x.run (saveLines clock r o) = (.error e, y)) :
    y.shared.store = x.shared.store := by
  unfold saveLines at h
  split at h
  · cases h
  · rcases Site.session_error h with rfl | ⟨reason, hrun⟩
    · rfl
    · exact SharedStore.appendLogs_error hrun

-- ### The whole output

-- A row for a stream of the output.
def StreamRow (l : Layout) (clock : Clock) (r : Run) (o : ProcessOutput) (row : FileRow) : Prop :=
  ∃ stream id i, row = (streamFile l r stream (o.text stream)).row id (clock i)

theorem save_ok (h : x.run (save l clock r o) = (.ok report, y)) :
    ∃ rows rs t, Files x.shared rows rs t ∧ (∀ row ∈ rows, StreamRow l clock r o row) ∧
      report = ⟨(logLines o.output).length, (logLines o.errors).length, rows.length⟩ ∧
      y.shared.store = t.store.loggedAll (stamped (clock.after 2) (entries r o)) ∧
      (∀ n ∈ entries r o, t.store.has n.spider = true) ∧
      t.Granted (if (entries r o).isEmpty then [] else [.appendLogs]) y.shared := by
  rw [save] at h
  obtain ⟨a, u, hfirst, h⟩ := Site.bind_ok h
  obtain ⟨b, v, hsecond, h⟩ := Site.bind_ok h
  obtain ⟨_, w, hlines, h⟩ := Site.bind_ok h
  cases h
  obtain ⟨rows, rs, hfiles, hlength, hfrom⟩ := saveStream_ok hfirst
  obtain ⟨more, qs, hfiles', hlength', hfrom'⟩ := saveStream_ok hsecond
  refine ⟨rows ++ more, rs ++ qs, v.shared, hfiles.trans hfiles', ?_, ?_, saveLines_ok hlines⟩
  · refine List.forall_mem_append.mpr ⟨fun row hrow => ?_, fun row hrow => ?_⟩
    · obtain ⟨id, h⟩ := hfrom row hrow
      exact ⟨.output, id, 0, h⟩
    · obtain ⟨id, h⟩ := hfrom' row hrow
      exact ⟨.errors, id, 1, h⟩
  · rw [List.length_append, hlength, hlength']

theorem save_error (h : x.run (save l clock r o) = (.error e, y)) :
    ∃ rows, x.shared.store.Acquires rows y.shared.store ∧
      ∀ row ∈ rows, StreamRow l clock r o row := by
  rw [save] at h
  rcases Site.bind_error h with hfails | ⟨a, u, hfirst, h⟩
  · rw [saveStream_error hfails]
    exact ⟨[], .nothing _, List.forall_mem_nil _⟩
  · obtain ⟨rows, _, hfiles, -, hfrom⟩ := saveStream_ok hfirst
    have hrows (row : FileRow) (hrow : row ∈ rows) : StreamRow l clock r o row := by
      obtain ⟨id, h⟩ := hfrom row hrow
      exact ⟨.output, id, 0, h⟩
    rcases Site.bind_error h with hfails | ⟨b, v, hsecond, h⟩
    · rw [saveStream_error hfails]
      exact ⟨rows, hfiles.acquires, hrows⟩
    · obtain ⟨more, _, hfiles', -, hfrom'⟩ := saveStream_ok hsecond
      have hboth : ∀ row ∈ rows ++ more, StreamRow l clock r o row := by
        refine List.forall_mem_append.mpr ⟨hrows, fun row hrow => ?_⟩
        obtain ⟨id, h⟩ := hfrom' row hrow
        exact ⟨.errors, id, 1, h⟩
      rcases Site.bind_error h with hfails | ⟨_, w, -, h⟩
      · rw [saveLines_error hfails]
        exact ⟨rows ++ more, hfiles.acquires.trans hfiles'.acquires, hboth⟩
      · cases h

-- What the store has got when output has been saved: these entries, in this order and each with a
-- reading of the time to itself, and as many files as are reported. The requests that this took
-- were all granted, the entries came at once, and they have their spider.
structure Saved (clock : Clock) (r : Run) (o : ProcessOutput) (x y : Site)
    (report : IngestReport) : Prop where
  logs : Store.Logs x.shared.store (stamped (clock.after 2)
      ((logLines o.output).map (lineEntry r.spider r.execution .info .spiderOutput) ++
        (logLines o.errors).map (lineEntry r.spider r.execution .error .spiderError)))
    y.shared.store
  outputLines : report.outputLines = (logLines o.output).length
  errorLines : report.errorLines = (logLines o.errors).length
  streamFiles : y.shared.store.files.length = x.shared.store.files.length + report.streamFiles
  granted : ∃ rs, x.shared.Granted rs y.shared ∧ rs.count .registerFile = report.streamFiles ∧
    rs.count .appendLogs = if (entries r o).isEmpty then 0 else 1
  has : entries r o ≠ [] → x.shared.store.has r.spider = true

theorem saved (h : x.run (save l clock r o) = (.ok report, y)) : Saved clock r o x y report := by
  obtain ⟨rows, rs, t, hfiles, -, rfl, hstore, hspider, hgranted⟩ := save_ok h
  have hbefore := hfiles.acquires.store
  refine ⟨?_, rfl, rfl, ?_, ⟨_, hfiles.granted.trans hgranted, ?_, ?_⟩, fun hsome => ?_⟩
  · have hlogged := Store.logs_loggedAll (stamped (clock.after 2) (entries r o)) t.store
    rw [← hstore] at hlogged
    exact hfiles.acquires.logs.trans hlogged
  · rw [hstore, Store.loggedAll, hbefore]
    exact List.length_append
  · rw [List.count_append, hfiles.registrations]
    split <;> rfl
  · rw [List.count_append, hfiles.batches]
    split <;> rfl
  · obtain ⟨n, hn⟩ := List.exists_mem_of_ne_nil _ hsome
    have hid := hspider n hn
    rw [(mem_lineEntries hn).1, hbefore] at hid
    exact hid

-- ### A store that refuses something, and one that does not

theorem save_refused {n : Nat} (hfirst : x.shared.asked ≤ n)
    (hlast : n < (x.run (save l clock r o)).2.shared.asked)
    (hrefused : ∀ q, x.shared.refusal n q ≠ none) :
    ∃ e, (x.run (save l clock r o)).1 = .error e := by
  rcases hrun : x.run (save l clock r o) with ⟨e | report, y⟩
  · exact ⟨e, rfl⟩
  · obtain ⟨rs, hgranted, -⟩ := (saved hrun).granted
    rw [hrun] at hlast
    obtain ⟨q, -, hq⟩ := hgranted.exists_granted hfirst hlast
    exact absurd hq (hrefused q)

theorem exists_run_saveStream (l : Layout) (now : Instant) (stream : Stream) (text : String)
    (hs : Serves r x.shared) : ∃ new y,
      x.run (saveStream l now r stream text) = (.ok new, y) ∧ Serves r y.shared := by
  rcases saveStream_cases l now r stream text x with hnothing | ⟨d, hsession⟩
  · exact ⟨false, x, hnothing, hs⟩
  · obtain ⟨new, t, hrun, ht⟩ := Serves.registerNew (x := { x with disk := d }) hs now
      (n := streamFile l r stream text) rfl
    exact ⟨new, _, hsession.trans hrun, ht⟩

theorem exists_run_saveLines (clock : Clock) (o : ProcessOutput) (hs : Serves r x.shared) :
    ∃ y, x.run (saveLines clock r o) = (.ok (), y) ∧ Serves r y.shared := by
  have hspider : ∀ n ∈ lineEntries r.spider r.execution o.output o.errors,
      x.shared.store.has n.spider = true := fun n hn => by
    rw [(mem_lineEntries hn).1]
    exact hs.has
  obtain ⟨t, hrun, -⟩ := hs.willing.run_appendStamped clock hspider
  unfold saveLines
  split
  · exact ⟨x, rfl, hs⟩
  · exact ⟨_, hs.session (.appendLogs _) hrun⟩

theorem exists_run_save (l : Layout) (clock : Clock) (o : ProcessOutput) (hs : Serves r x.shared) :
    ∃ report y, x.run (save l clock r o) = (.ok report, y) ∧ Serves r y.shared := by
  obtain ⟨a, u, hfirst, hu⟩ := exists_run_saveStream l (clock 0) .output o.output hs
  obtain ⟨b, v, hsecond, hv⟩ := exists_run_saveStream l (clock 1) .errors o.errors hu
  obtain ⟨w, hlines, hw⟩ := exists_run_saveLines (clock.after 2) o hv
  have hrun : x.run (save l clock r o) = (.ok ⟨(logLines o.output).length,
      (logLines o.errors).length, a.toNat + b.toNat⟩, w) := by
    simp only [save, Site.run_bind, hfirst, hsecond, hlines]
    rfl
  exact ⟨_, w, hrun, hw⟩

-- ### Saving again

-- One more time that output is saved, on whatever disk there is by then.
structure Pass where
  disk : Disk
  clock : Clock
  run : Run
  output : ProcessOutput

def Pass.perform (l : Layout) (x : Site) (p : Pass) : Site :=
  (Site.run { x with disk := p.disk } (save l p.clock p.run p.output)).2

-- Every pass counts, also one that fails halfway.
theorem Pass.acquires (l : Layout) (x : Site) (p : Pass) :
    ∃ rows, x.shared.store.withoutLog.Acquires rows (p.perform l x).shared.store.withoutLog ∧
      ∀ row ∈ rows, StreamRow l p.clock p.run p.output row := by
  rw [perform]
  rcases hrun : Site.run { x with disk := p.disk } (save l p.clock p.run p.output) with
    ⟨e | report, y⟩
  · obtain ⟨rows, hrows, hfrom⟩ := save_error hrun
    exact ⟨rows, hrows.withoutLog, hfrom⟩
  · obtain ⟨rows, _, t, hfiles, hfrom, -, hstore, -⟩ := save_ok hrun
    refine ⟨rows, ?_, hfrom⟩
    rw [hstore]
    exact hfiles.acquires.withoutLog

theorem acquires_of_passes (l : Layout) (x : Site) (ps : List Pass) :
    ∃ rows, x.shared.store.withoutLog.Acquires rows
        (ps.foldl (Pass.perform l) x).shared.store.withoutLog ∧
      ∀ row ∈ rows, ∃ p ∈ ps, StreamRow l p.clock p.run p.output row := by
  induction ps generalizing x with
  | nil => exact ⟨[], .nothing _, List.forall_mem_nil _⟩
  | cons p rest ih =>
      obtain ⟨rows, hrows, hfrom⟩ := p.acquires l x
      obtain ⟨more, hmore, hfrom'⟩ := ih (p.perform l x)
      refine ⟨rows ++ more, hrows.trans hmore, List.forall_mem_append.mpr
        ⟨fun row hrow => ⟨p, List.mem_cons_self, hfrom row hrow⟩, fun row hrow => ?_⟩⟩
      obtain ⟨q, hq, hrow⟩ := hfrom' row hrow
      exact ⟨q, List.mem_cons_of_mem p hq, hrow⟩

-- Whether a row is about a stream of the run.
def isStream (l : Layout) (r : Run) (stream : Stream) (row : FileRow) : Bool :=
  row.spider == r.spider && row.path == l.streamLog r.spider r.execution stream

-- ### The whole

-- Output that is saved is logged line by line, and the report counts the lines. If it cannot be
-- saved, as when a request is refused, nothing of it is in the log. What is logged does not depend
-- on where the output is cut at its line feeds, and no stream has more than one file, however often
-- it is saved.
theorem logs_output :
    (∀ (l : Layout) (clock : Clock) (r : Run) (o : ProcessOutput) (x y : Site)
      (report : IngestReport), x.run (save l clock r o) = (.ok report, y) →
      Saved clock r o x y report) ∧
    (∀ (l : Layout) (clock : Clock) (r : Run) (o : ProcessOutput) (x y : Site) (e : EngineError),
      x.run (save l clock r o) = (.error e, y) → Store.Logs x.shared.store [] y.shared.store) ∧
    (∀ (l : Layout) (clock : Clock) (r : Run) (o : ProcessOutput) (x : Site) (n : Nat),
      x.shared.asked ≤ n → n < (x.run (save l clock r o)).2.shared.asked →
      (∀ q, x.shared.refusal n q ≠ none) → ∃ e, (x.run (save l clock r o)).1 = .error e) ∧
    (∀ (l : Layout) (clock : Clock) (r : Run) (o : ProcessOutput) (x : Site), Serves r x.shared →
      ∃ report y, x.run (save l clock r o) = (.ok report, y) ∧ Serves r y.shared) ∧
    (∀ text, logLines text = (trimmedLines (text.toList.splitOn '\n')).map String.ofList) ∧
    (∀ a b, logLines (a ++ "\n" ++ b) = logLines a ++ logLines b) ∧
    (∀ pieces, logLines ("\n".intercalate pieces) = pieces.flatMap logLines) ∧
    ∀ (l : Layout) (x : Site) (ps : List Pass), ∃ rows,
      (ps.foldl (Pass.perform l) x).shared.store.files = x.shared.store.files ++ rows ∧
      (∀ row ∈ rows, ∃ p ∈ ps, StreamRow l p.clock p.run p.output row) ∧
      ∀ r stream, (ps.foldl (Pass.perform l) x).shared.store.files.countP (isStream l r stream) ≤
        max 1 (x.shared.store.files.countP (isStream l r stream)) := by
  refine ⟨fun l clock r o x y report h => saved h, fun l clock r o x y e h => ?_,
    fun l clock r o x n => save_refused, fun l clock r o x hs => exists_run_save l clock o hs,
    logLines_eq, logLines_append_newline, logLines_intercalate, fun l x ps => ?_⟩
  · obtain ⟨rows, hrows, -⟩ := save_error h
    exact hrows.logs
  · obtain ⟨rows, hrows, hfrom⟩ := acquires_of_passes l x ps
    exact ⟨rows, congrArg Store.files hrows.store, hfrom, fun r stream => hrows.countP_le _ _⟩

-- Its lines have blanks around them and between them, and one ends with a carriage return.
def smallOutput : ProcessOutput := ⟨"one\r\n\n  two\t\n", "oops", 0⟩

-- A directory for streams that cannot be there.
def nowhere : Layout := ⟨"/f", "/\x00", "/s"⟩

def refusing : Site :=
  { smallSite with
    shared := { smallSite.shared with refusal := fun _ _ => some "database is locked" } }

def smallPasses : List Pass :=
  [⟨smallDisk, ticking 5, smallRun, smallOutput⟩,
    ⟨smallDisk, ticking 9, smallRun, ⟨"", "late", 0⟩⟩]

theorem logs_output_small :
    (∃ report y, smallSite.run (save smallLayout (ticking 5) smallRun smallOutput) =
        (.ok report, y) ∧
      report.outputLines = 2 ∧ report.errorLines = 1 ∧
      y.shared.store.logs = Store.rowsFrom 1
        [(lineEntry 1 "e" .info .spiderOutput "one", ⟨7, 0⟩),
          (lineEntry 1 "e" .info .spiderOutput "two", ⟨8, 0⟩),
          (lineEntry 1 "e" .error .spiderError "oops", ⟨9, 0⟩)]) ∧
    (∃ e y, refusing.run (save nowhere (ticking 5) smallRun smallOutput) = (.error e, y) ∧
      y.shared.store.logs = []) ∧
    logLines "one\r\n  two" = ["one", "two"] ∧
    ∀ stream, (smallPasses.foldl (Pass.perform smallLayout) smallSite).shared.store.files.countP
      (isStream smallLayout smallRun stream) ≤ 1 := by
  obtain ⟨hsaved, hfails, hrefused, hsuccess, -, hcut, -, hpasses⟩ := logs_output
  refine ⟨?_, ?_, ?_, fun stream => ?_⟩
  · obtain ⟨report, y, hrun, -⟩ := hsuccess smallLayout (ticking 5) smallRun smallOutput smallSite
      serves_small
    have h := hsaved _ _ _ _ _ _ _ hrun
    have hoe : logLines smallOutput.output = ["one", "two"] := by decide
    have hee : logLines smallOutput.errors = ["oops"] := by decide
    refine ⟨report, y, hrun, ?_, ?_, ?_⟩
    · rw [h.outputLines, hoe]
      rfl
    · rw [h.errorLines, hee]
      rfl
    · rw [h.logs.rows, hoe, hee]
      rfl
  · obtain ⟨e, he⟩ := hrefused nowhere (ticking 5) smallRun smallOutput refusing 0 (Nat.le_refl 0)
      (by decide) nofun
    have hrun : refusing.run (save nowhere (ticking 5) smallRun smallOutput) = (.error e, _) :=
      Prod.ext he rfl
    exact ⟨e, _, hrun, (hfails _ _ _ _ _ _ _ hrun).rows⟩
  · exact hcut "one\r" "  two"
  · obtain ⟨rows, -, -, hcount⟩ := hpasses smallLayout smallSite smallPasses
    exact hcount smallRun stream

end Ingest

end Spiderworks
