import Spiderworks.Proofs.Engine.Refusals
import Spiderworks.Proofs.Output.LogLines
import Spiderworks.Proofs.Store.Notes

namespace Spiderworks

variable {α : Type} {s : Setup} {h k : Hub} {x : String}

def Hub.notes (h : Hub) : List Note := h.store.notes

-- What the log of one execution says.
def Hub.told (h : Hub) (x : String) : List Note := h.notes.filter (·.execution == some x)

theorem Hub.told_of_notes {ns : List NewLog} (hk : k.notes = h.notes ++ ns.map NewLog.note) :
    k.told x = h.told x ++ (ns.map NewLog.note).filter (·.execution == some x) := by
  rw [Hub.told, hk, List.filter_append, Hub.told]

theorem Hub.told_of_about {ns : List NewLog} (hk : k.notes = h.notes ++ ns.map NewLog.note)
    (hns : ∀ n ∈ ns, n.execution = some x) : k.told x = h.told x ++ ns.map NewLog.note := by
  rw [Hub.told_of_notes hk, List.filter_eq_self.mpr]
  intro note hm
  obtain ⟨n, hn, rfl⟩ := List.mem_map.mp hm
  simpa [NewLog.note] using hns n hn

theorem Hub.told_of_others {y : String} {ns : List NewLog}
    (hk : k.notes = h.notes ++ ns.map NewLog.note) (hns : ∀ n ∈ ns, n.execution = some y)
    (hxy : x ≠ y) : k.told x = h.told x := by
  rw [Hub.told_of_notes hk, List.filter_eq_nil_iff.mpr, List.append_nil]
  intro note hm
  obtain ⟨n, hn, rfl⟩ := List.mem_map.mp hm
  simpa [NewLog.note, hns n hn] using Ne.symm hxy

theorem Hub.notes_unregister (h : Hub) (spider : Int) (x : String) :
    (h.unregister spider x).notes = h.notes := by
  unfold Hub.unregister
  split <;> rfl

theorem Hub.notes_removeFile (s : Setup) (path : String) (h : Hub) :
    (h.removeFile s path).notes = h.notes := by
  unfold Hub.removeFile
  split <;> rfl

theorem Hub.notes_launch (h : Hub) (spider : Int) (p : Stored) (l : Launch) :
    (h.launch s spider p l).2.notes = h.notes := by
  unfold Hub.launch
  split <;> rfl

-- ### Starts

def StartCall.entries (c : StartCall) : List NewLog :=
  match c.stage with
  | .marking d x _ => [Bookkeeping.startLine ⟨d.id, d.name, x⟩]
  | _ => []

theorem StartCall.notes_step {c : StartCall} (hs : h.site.shared.Willing)
    (hid : ∀ d x n, c.stage = .marking d x n → h.has d.id = true) :
    (c.step s h).2.2.notes = h.notes ++ c.entries.map NewLog.note := by
  obtain ⟨spider, stage⟩ := c
  cases stage with
  | asking =>
      simp only [step, nextStage, stepAsking, entries, List.map_nil, List.append_nil]
      split <;> rfl
  | reading =>
      simp only [step, nextStage, stepReading, entries, List.map_nil, List.append_nil]
      rcases work_readSpider h spider with hwork | ⟨-, r, hwork⟩
      · rw [hwork]
      · rw [hwork]
        cases r <;> rfl
  | registering d =>
      simp only [step, nextStage, stepRegistering, entries, List.map_nil, List.append_nil]
      split <;> rfl
  | marking d x n =>
      rw [StartCall.step_entered rfl hs (hid d x n rfl)]
      exact Bookkeeping.notes_runStarted _ ⟨d.id, d.name, x⟩ h.store
  | withdrawing x e =>
      simp only [entries, List.map_nil, List.append_nil]
      exact h.notes_unregister spider x
  | done r => exact (List.append_nil _).symm

-- ### Runs

theorem Run.notes_prepare (r : Run) (h : Hub) : (h.work (r.prepare s)).2.notes = h.notes := by
  have changeDisk (f : Disk → Except IoError Disk) (h : Hub) :
      (∃ d, h.work (Work.changeDisk f) = (.ok (), h.setDisk d)) ∨
        ∃ e, h.work (Work.changeDisk f) = (.error e, h) := by
    have hdisk (h : Hub) : h.work Work.disk = (.ok h.site.disk, h) := rfl
    rw [Work.changeDisk, Hub.work_bind, hdisk]
    dsimp only
    cases f h.site.disk with
    | ok d => exact .inl ⟨d, rfl⟩
    | error e => exact .inr ⟨_, rfl⟩
  unfold Run.prepare
  split
  · rfl
  · rw [Hub.work_bind]
    rcases changeDisk _ h with ⟨d, hd⟩ | ⟨e, he⟩
    · rw [hd]
      dsimp only
      rw [Hub.work_bind]
      rcases changeDisk _ (h.setDisk d) with ⟨d', hd'⟩ | ⟨e, he⟩
      · rw [hd']
        rfl
      · rw [he]
        rfl
    · rw [he]

def Chore.entries (r : Run) : Chore → List NewLog
  | .stream _ _ => []
  | .lines o => lineEntries r.spider.id r.execution o.output o.errors

-- A stream that cannot be written to the disk is passed over, so every chore succeeds.
theorem Run.work_doChore {r : Run} (hs : h.site.shared.Willing) (hid : h.has r.spider.id = true)
    (clock : Time.Clock) (c : Chore) : ∃ k, h.work (r.doChore s clock c) = (.ok (), k) ∧
      k.notes = h.notes ++ (c.entries r).map NewLog.note := by
  cases c with
  | stream stream text =>
      have hsave : ∃ new k, h.work (Ingest.saveStream s.layout (clock 0) r.files stream text) =
          (.ok new, k) ∧ k.notes = h.notes := by
        have hdisk (h : Hub) : h.work Work.disk = (.ok h.site.disk, h) := rfl
        have hset (h : Hub) (d : Disk) : h.work (Work.setDisk d) = (.ok (), h.setDisk d) := rfl
        unfold Ingest.saveStream
        split
        · exact ⟨false, h, rfl, rfl⟩
        · simp only [Hub.work_bind, hdisk]
          split
          · exact ⟨false, h, rfl, rfl⟩
          · rename_i d _
            simp only [Hub.work_bind, hset]
            obtain ⟨new, t, hrun, ht⟩ := SharedStore.Willing.run_registerNew
              (f := Ingest.streamFile s.layout r.files stream text) (clock 0) hs hid
            exact ⟨new, _, Hub.work_session (h := h.setDisk d) hs hrun, ht⟩
      obtain ⟨new, k, hwork, hk⟩ := hsave
      refine ⟨k, ?_, hk.trans (List.append_nil _).symm⟩
      simp only [doChore, Hub.work_bind, hwork]
      rfl
  | lines o =>
      simp only [doChore, Ingest.saveLines]
      have hmem (n : NewLog) (hn : n ∈ lineEntries r.files.spider r.files.execution o.output
          o.errors) : h.has n.spider = true := by
        rw [(mem_lineEntries hn).1]
        exact hid
      split
      · rename_i heq
        rw [show Chore.entries r (.lines o) = [] from heq]
        exact ⟨h, rfl, (List.append_nil _).symm⟩
      · obtain ⟨t, hrun, ht⟩ := hs.run_appendStamped clock hmem
        exact ⟨_, Hub.work_session hs hrun, ht⟩

theorem Run.notes_registerFound {r : Run} (hs : h.site.shared.Willing)
    (hid : h.has r.spider.id = true) (now : Time.Instant) (f : String × Nat) :
    (h.work (Ingest.registerFound s.layout now r.files f)).2.notes = h.notes := by
  obtain ⟨new, t, hrun, ht⟩ := SharedStore.Willing.run_registerNew
    (f := Ingest.foundFile s.layout r.files f.1 f.2) now hs hid
  rw [Ingest.registerFound, Hub.work_session hs hrun]
  exact ht

-- How a run ends is what its last line reports.
def RunEnd.level : RunEnd → LogLevel
  | .exited o => Bookkeeping.exitLevel o.code
  | .stopped => .warning
  | .failed _ => .error

theorem Run.notes_claimed {r : Run} {e : RunEnd} (m : RunMove) (hr : r.stage = .claimed e)
    (he : e.isStopped = false) (hs : h.site.shared.Willing) (hid : h.has r.spider.id = true) :
    ∃ message, (r.step s m h).2.notes = h.notes ++
      [Bookkeeping.line r.subject e.level .spiderRunner message].map NewLog.note := by
  have hentry : ∃ t message, h.site.shared.run (r.finalEntry (s.clock h.readings) e) = (.ok (), t) ∧
      t.store.notes = h.site.shared.store.notes ++
        [(Bookkeeping.line r.subject e.level .spiderRunner message).note] := by
    cases e with
    | exited o => exact Bookkeeping.run_reconcile (x := r.subject) hs hid o.code _
    | stopped => cases he
    | failed error => exact Bookkeeping.run_recordFailure (x := r.subject) hs hid error
  obtain ⟨t, message, hrun, ht⟩ := hentry
  have hwork := Hub.work_session (h := (h.readClock s).2) hs hrun
  refine ⟨message, ?_⟩
  simp only [step, nextStage, hr, stepClaimed]
  rw [show h.readClock s = (s.clock h.readings, (h.readClock s).2) from rfl, hwork]
  exact ht

-- What a run writes besides its last line.
def Run.entries (r : Run) : List NewLog :=
  match r.stage with
  | .saving _ (c :: _) _ => c.entries r
  | _ => []

theorem Run.mem_entries {r : Run} {n : NewLog} (hn : n ∈ r.entries) :
    n.execution = some r.execution := by
  obtain ⟨d, x, number, began, stage⟩ := r
  cases stage with
  | saving p chores e =>
      cases chores with
      | nil => cases hn
      | cons c rest =>
          cases c with
          | stream stream text => cases hn
          | lines o => exact (mem_lineEntries hn).2
  | _ => cases hn

theorem Run.notes_step {r : Run} (m : RunMove) (hs : h.site.shared.Willing)
    (hid : h.has r.spider.id = true) (hr : ∀ e, r.stage ≠ .claimed e) :
    (r.step s m h).2.notes = h.notes ++ r.entries.map NewLog.note := by
  obtain ⟨d, x, n, began, stage⟩ := r
  cases stage with
  | saving p chores e =>
      cases chores with
      | nil => exact (List.append_nil _).symm
      | cons c rest =>
          let r : Run := ⟨d, x, n, began, .saving p (c :: rest) e⟩
          obtain ⟨k, hwork, hk⟩ := Run.work_doChore (s := s)
            (h := (h.readTimes s (r.readings c)).2) (r := r) hs hid
            (h.readTimes s (r.readings c)).1 c
          simp only [step, nextStage, stepSaving, entries]
          rw [hwork]
          exact hk
  | preparing =>
      have hk := Run.notes_prepare (s := s) ⟨d, x, n, began, .preparing⟩ h
      simp only [step, nextStage, stepPreparing, entries, List.map_nil, List.append_nil]
      split <;> rename_i hwork <;> rw [hwork] at hk <;> exact hk
  | prepared p =>
      simp only [step, nextStage, stepPrepared, entries, List.map_nil, List.append_nil]
      split
      · exact h.notes_removeFile s p.path
      · have hk := h.notes_launch (s := s) d.id p (launchOf s ⟨d, x, n, began, .prepared p⟩ p)
        split <;> rename_i hlaunch <;> rw [hlaunch] at hk
        · exact hk
        · exact (Hub.notes_removeFile s p.path _).trans hk
  | watching p c =>
      simp only [step, nextStage, entries, List.map_nil, List.append_nil]
      cases m with
      | onward =>
          simp only [stepWatching]
          split <;> rfl
      | heed =>
          simp only [stepWatching]
          split <;> rfl
      | lose error => exact h.notes_removeFile s p.path
  | registering p files e =>
      simp only [entries, List.map_nil, List.append_nil]
      cases files with
      | nil => exact h.notes_removeFile s p.path
      | cons f rest =>
          have hk := Run.notes_registerFound (s := s) (h := (h.readClock s).2)
            (r := ⟨d, x, n, began, .registering p (f :: rest) e⟩) hs hid (s.clock h.readings) f
          simp only [step, nextStage, stepRegistering]
          rw [show h.readClock s = (s.clock h.readings, (h.readClock s).2) from rfl]
          dsimp only
          split <;> rename_i hwork <;> rw [hwork] at hk <;> exact hk
  | ended e =>
      simp only [entries, List.map_nil, List.append_nil]
      cases e with
      | stopped => rfl
      | _ =>
          simp only [step, nextStage, stepEnded]
          split <;> rfl
  | claimed e => exact absurd rfl (hr e)
  | leaving =>
      simp only [entries, List.map_nil, List.append_nil]
      exact h.notes_unregister d.id x
  | _ => exact (List.append_nil _).symm

-- Whether a stream could be saved as a file makes no difference to its run.
theorem Run.step_stream {r : Run} {p : Stored} {stream : Stream} {text : String}
    {rest : List Chore} {e : RunEnd} (m : RunMove)
    (hr : r.stage = .saving p (.stream stream text :: rest) e) (hs : h.site.shared.Willing)
    (hid : h.has r.spider.id = true) :
    (r.step s m h).1 = { r with stage := .saving p rest e } ∧ (r.step s m h).2.notes = h.notes := by
  constructor
  · obtain ⟨k, hwork, -⟩ := Run.work_doChore (s := s) (h := (h.readTimes s 1).2) hs hid
      (h.readTimes s 1).1 (.stream stream text)
    simp only [step, nextStage, hr, stepSaving, readings]
    rw [hwork]
  · have hclaimed : ∀ f, r.stage ≠ .claimed f := by
      intro f hf
      cases hr.symm.trans hf
    rw [Run.notes_step m hs hid hclaimed, entries, hr]
    exact List.append_nil _

-- ### Requests to stop

theorem StopCall.notes_step {c : StopCall} (m : StopMove) (hc : ∀ t, c.stage ≠ .marking t) :
    (c.step s m h).2.notes = h.notes := by
  obtain ⟨spider, stage⟩ := c
  cases stage with
  | asking =>
      simp only [step, nextStage, stepAsking]
      split <;> rfl
  | settling t => cases m <;> rfl
  | marking t => exact absurd rfl (hc t)
  | leaving t result => exact h.notes_unregister spider t.execution
  | _ => rfl

theorem StopCall.notes_marking {c : StopCall} {t : StopTicket} (m : StopMove)
    (hc : c.stage = .marking t) (hs : h.site.shared.Willing) (hid : h.has c.spider = true)
    (readable : ∃ found, h.site.shared.store.spider? c.spider = .ok found) :
    ∃ message, (c.step s m h).2.notes = h.notes ++ [(⟨c.spider, .warning, .spiderRunner, message,
      some t.execution⟩ : NewLog)].map NewLog.note := by
  obtain ⟨u, message, hrun, hu⟩ := Bookkeeping.run_markStopped (s.clock h.readings) t.execution
    hs hid readable
  have hwork := Hub.work_session (h := (h.readClock s).2) hs hrun
  refine ⟨message, ?_⟩
  simp only [step, nextStage, hc, stepMarking]
  rw [show h.readClock s = (s.clock h.readings, (h.readClock s).2) from rfl, hwork]
  exact hu

-- ### Direct calls

theorem Bookkeeping.about_callStarted (now later : Time.Instant) (y : Subject) :
    ∀ w ∈ callStarted now later y, w.About y.execution := by
  intro w hw
  simp only [callStarted, List.mem_cons, List.not_mem_nil, or_false] at hw
  rcases hw with rfl | rfl
  · exact Write.about_appendLog rfl
  · exact Write.about_ofRow _

theorem Bookkeeping.about_callEnded (now : Time.Instant) (y : Subject) (r : DirectResult)
    (nanos : Nat) : ∀ w ∈ callEnded now y r nanos, w.About y.execution := by
  intro w hw
  simp only [callEnded, List.mem_cons, List.not_mem_nil, or_false] at hw
  rcases hw with rfl | rfl
  · exact Write.about_appendLog rfl
  · split <;> exact Write.about_ofRow _

-- An entry, broken off or not, that is about one execution.
theorem Hub.notes_writes {ws : List Write} {u : SharedStore} {a : Int} (hu : u.store = h.store)
    (hws : ∀ w ∈ ws, w.About x) : ∃ ns : List NewLog,
      (h.setShared (u.run (Session.writes a ws)).2).notes = h.notes ++ ns.map NewLog.note ∧
        ∀ n ∈ ns, n.execution = some x := by
  obtain ⟨r, t, m, hrun, ht, -⟩ := u.run_writes_prefix a ws
  rw [hrun, show Hub.notes (h.setShared t) = t.store.notes from rfl, ht, hu]
  exact Store.notes_after (fun w hw => hws w (List.mem_of_mem_take hw)) h.store

theorem Hub.notes_work_writes {ws : List Write} {a : Int} (hws : ∀ w ∈ ws, w.About x) :
    ∃ ns : List NewLog, (h.work (Work.session (Session.writes a ws))).2.notes =
      h.notes ++ ns.map NewLog.note ∧ ∀ n ∈ ns, n.execution = some x := by
  cases hp : h.site.shared.poisoned with
  | true =>
      rw [Hub.work_session_poisoned hp]
      exact ⟨[], (List.append_nil _).symm, nofun⟩
  | false =>
      have hwrites := Hub.notes_writes (h := h) (u := h.site.shared) (a := a) rfl hws
      rw [Hub.work_session_eq hp]
      rcases hrun : h.site.shared.run (Session.writes a ws) with ⟨_ | _, t⟩ <;>
      · rw [hrun] at hwrites
        exact hwrites

theorem DirectCall.notes_step (c : DirectCall) (m : DirectMove) (h : Hub) : ∃ ns : List NewLog,
    (c.step s m h).2.notes = h.notes ++ ns.map NewLog.note ∧
      ∀ n ∈ ns, n.execution = some c.execution := by
  have silent {k : Hub} (hk : k.notes = h.notes) : ∃ ns : List NewLog,
      k.notes = h.notes ++ ns.map NewLog.note ∧ ∀ n ∈ ns, n.execution = some c.execution :=
    ⟨[], hk.trans (List.append_nil _).symm, nofun⟩
  by_cases hc : c.stage = .admitting
  · rcases DirectCall.step_admitting (s := s) (h := h) m hc with
      ⟨e, asked, hstep⟩ | ⟨y, -, -, -, hstep⟩
    · exact silent (by rw [hstep]; rfl)
    · have hwrites := Hub.notes_writes (h := ((h.readClock s).2.readClock s).2)
        (u := { h.site.shared with asked := h.site.shared.asked + 2 }) (a := c.spider) rfl
        (Bookkeeping.about_callStarted (s.clock h.readings) (s.clock (h.readings + 1))
          ⟨c.spider, y.name, c.execution⟩)
      rw [hstep]
      rcases hrun : SharedStore.run _ (Session.writes c.spider _) with ⟨_ | _, t⟩ <;>
      · rw [hrun] at hwrites
        exact hwrites
  · obtain ⟨spider, code, x, began, stage⟩ := c
    cases stage with
    | admitting => exact absurd rfl hc
    | preparing d =>
        simp only [step, nextStage, stepPreparing]
        split <;> exact silent rfl
    | prepared d p =>
        have hk := h.notes_launch (s := s) spider p
          (launchOf ⟨spider, code, x, began, .prepared d p⟩ p)
        simp only [step, nextStage, stepPrepared]
        split <;> rename_i hlaunch <;> rw [hlaunch] at hk
        · exact silent hk
        · exact silent ((Hub.notes_removeFile s p.path _).trans hk)
    | watching d p child => exact silent (h.notes_removeFile s p.path)
    | recording d o =>
        simp only [step, nextStage, stepRecording, Bookkeeping.recordOutcome_eq]
        exact Hub.notes_work_writes (h := (h.readClock s).2)
          (Bookkeeping.about_callEnded _ ⟨d.id, d.name, x⟩ _ _)
    | done r => exact silent rfl

end Spiderworks
