import Spiderworks.Proofs.Store.Writes

namespace Spiderworks

open Time (Clock Instant)

-- What an entry of the log says, and about which spider and execution.
structure Note where
  spider : Int
  level : LogLevel
  source : Option LogSource
  message : String
  execution : Option String
  deriving DecidableEq, Repr

def LogEntry.note (e : LogEntry) : Note := ⟨e.spider, e.level, e.source, e.message, e.execution⟩

def NewLog.note (n : NewLog) : Note := ⟨n.spider, n.level, some n.source, n.message, n.execution⟩

def Store.notes (t : Store) : List Note := t.logs.map fun row => row.read.note

variable {α : Type} {t u : Store} {s : SharedStore} {a : Int} {now : Instant} {n : NewLog}
  {ns : List NewLog} {entries : List (NewLog × Instant)}

theorem Store.executionLogs_note (t : Store) (x : String) :
    (t.executionLogs x).map LogEntry.note = t.notes.filter (·.execution == some x) := by
  rw [Store.executionLogs, Store.notes, List.map_map, List.filter_map]
  rfl

-- ### Writes

theorem Store.notes_logged (now : Instant) (n : NewLog) (t : Store) :
    (t.logged now n).notes = t.notes ++ [n.note] := by
  rw [notes, logged, List.map_append]
  simp [notes, LogRow.read, LogEntry.note, NewLog.note, LogLevel.ofName?_name,
    LogSource.ofName?_name]

theorem Store.after_cons (t : Store) (w : Write) (ws : List Write) :
    t.after (w :: ws) = (w.make t).after ws := rfl

-- Writes whose entries are all about one execution.
def Write.About (x : String) (w : Write) : Prop :=
  ∀ t : Store, ∃ ns : List NewLog, (w.make t).notes = t.notes ++ ns.map NewLog.note ∧
    ∀ n ∈ ns, n.execution = some x

theorem Write.about_ofRow {r : Request} {f : SpiderRow → SpiderRow} {hf : ∀ r, (f r).id = r.id}
    (x : String) : (Write.ofRow r a f hf).About x :=
  fun t => ⟨[], (List.append_nil t.notes).symm, nofun⟩

theorem Write.about_appendLog {x : String} (hn : n.execution = some x) :
    (Write.appendLog now n).About x := by
  refine fun t => ⟨[n], Store.notes_logged now n t, ?_⟩
  simpa using hn

theorem Store.notes_after {x : String} {ws : List Write} (h : ∀ w ∈ ws, w.About x) (t : Store) :
    ∃ ns : List NewLog, (t.after ws).notes = t.notes ++ ns.map NewLog.note ∧
      ∀ n ∈ ns, n.execution = some x := by
  induction ws generalizing t with
  | nil => exact ⟨[], (List.append_nil t.notes).symm, nofun⟩
  | cons w rest ih =>
      obtain ⟨ns, hns, hx⟩ := h w (List.mem_cons_self ..) t
      obtain ⟨ms, hms, hx'⟩ := ih (fun v hv => h v (List.mem_cons_of_mem _ hv)) (w.make t)
      refine ⟨ns ++ ms, ?_, ?_⟩
      · rw [after_cons, hms, hns, List.map_append, List.append_assoc]
      · intro n hn
        exact (List.mem_append.mp hn).elim (hx n) (hx' n)

-- ### Several entries at once

theorem Store.appendLogs_eq (hid : ∀ entry ∈ entries, t.has entry.1.spider = true) :
    t.appendLogs entries = .ok (entries.foldl (fun t entry => t.logged entry.2 entry.1) t) := by
  induction entries generalizing t with
  | nil => rfl
  | cons entry rest ih =>
      rw [appendLogs, appendLog_eq entry.2 (hid entry (List.mem_cons_self ..))]
      exact ih fun other hother => hid other (List.mem_cons_of_mem _ hother)

theorem Store.notes_foldl (entries : List (NewLog × Instant)) (t : Store) :
    (entries.foldl (fun t entry => t.logged entry.2 entry.1) t).notes =
      t.notes ++ entries.map (·.1.note) := by
  induction entries generalizing t with
  | nil => exact (List.append_nil _).symm
  | cons entry rest ih =>
      rw [List.foldl_cons, ih, notes_logged, List.append_assoc]
      rfl

theorem Ingest.map_stamped (clock : Clock) (ns : List NewLog) :
    (stamped clock ns).map (·.1) = ns := by
  refine List.ext_getElem (by simp [stamped]) fun i _ _ => ?_
  simp [stamped]

-- ### Requests that are not refused

namespace SharedStore.Willing

theorem run_look {β : Type} {r : Request} {f : Store → Except StoreError β} {v : β}
    (hs : s.Willing) (hf : f s.store = .ok v) :
    s.run (Session.look r f) = (.ok v, { s with asked := s.asked + 1 }) := by
  rw [SharedStore.run_look, hs.refusal]
  simp only [hf]

theorem run_appendLogs (hs : s.Willing)
    (hid : ∀ entry ∈ entries, s.store.has entry.1.spider = true) :
    ∃ t, s.run (Session.appendLogs entries) = (.ok (), t) ∧
      t.store.notes = s.store.notes ++ entries.map (·.1.note) := by
  rw [Session.appendLogs_eq, Session.tell, SharedStore.run_attempt, hs.refusal]
  simp only [Store.appendLogs_eq hid, Except.map]
  exact ⟨_, rfl, Store.notes_foldl entries s.store⟩

theorem run_appendStamped (clock : Clock) (hs : s.Willing)
    (hid : ∀ n ∈ ns, s.store.has n.spider = true) :
    ∃ t, s.run (Session.appendLogs (Ingest.stamped clock ns)) = (.ok (), t) ∧
      t.store.notes = s.store.notes ++ ns.map NewLog.note := by
  have hhas : ∀ entry ∈ Ingest.stamped clock ns, s.store.has entry.1.spider = true :=
    fun entry hentry => hid entry.1 (Ingest.map_stamped clock ns ▸ List.mem_map_of_mem hentry)
  obtain ⟨t, hrun, ht⟩ := hs.run_appendLogs hhas
  refine ⟨t, hrun, ht.trans (congrArg _ ?_)⟩
  conv_rhs => rw [← Ingest.map_stamped clock ns, List.map_map]
  rfl

-- A file is registered or known, and no entry is made for it.
theorem run_registerNew {f : NewFile} (now : Instant) (hs : s.Willing)
    (hid : s.store.has f.spider = true) :
    ∃ new t, s.run (Ingest.registerNew now f) = (.ok new, t) ∧ t.store.notes = s.store.notes := by
  have hlook := hs.run_look (r := .findFile) (f := fun t => .ok (t.file? f.spider f.path)) rfl
  rw [Ingest.registerNew, SharedStore.run_bind, Session.file?_eq, hlook]
  dsimp only
  split
  · exact ⟨false, _, rfl, rfl⟩
  · rw [SharedStore.run_bind, Session.registerFile_eq, SharedStore.run_attempt]
    simp only [hs.refusal, Store.registerFile, hid, ↓reduceIte]
    cases s.store.fileRow? f.spider f.path <;> exact ⟨true, _, rfl, rfl⟩

theorem run_writes (hs : s.Willing) (hid : s.store.has a = true) (ws : List Write) :
    s.run (Session.writes a ws) =
      (.ok (), { s with asked := s.asked + ws.length, store := s.store.after ws }) :=
  SharedStore.run_writes hid (hs.grants ws)

end SharedStore.Willing

-- ### Entries of a run

namespace Bookkeeping

variable (now : Instant) (x : Subject)

def startLine (x : Subject) : NewLog :=
  line x .info .spiderRunner
    ("Spider " ++ quoted x.name ++ " started with execution ID: " ++ x.execution)

def exitLevel (code : Int) : LogLevel := if code = 0 then .info else .error

theorem notes_runStarted (t : Store) :
    (t.after (runStarted now x)).notes = t.notes ++ [(startLine x).note] :=
  Store.notes_logged now (startLine x) _

theorem reconcile_zero_eq (nanos : Nat) : reconcile now x 0 nanos = Session.writes x.spider
    [.setStatus x.spider .inactive, .countSuccess x.spider,
      .appendLog now (line x .info .spiderRunner
        ("Spider " ++ quoted x.name ++ " completed successfully in " ++ secondsText nanos))] := by
  simp only [reconcile, note_eq, Session.countSuccess_eq_tell, Session.setStatus_eq_tell]
  rfl

theorem reconcile_nonzero_eq {code : Int} (hc : code ≠ 0) (nanos : Nat) :
    reconcile now x code nanos = Session.writes x.spider
      [.setStatus x.spider .error, .countError x.spider,
        .appendLog now (line x .error .spiderRunner
          ("Spider " ++ quoted x.name ++ " failed with exit code " ++
            String.ofList (Text.ofInt code) ++ " after " ++ secondsText nanos))] := by
  simp only [reconcile, Status.ofExitCode, hc, ↓reduceIte]
  rw [note_eq, Session.setStatus_eq_tell, Session.countError_eq_tell]
  rfl

theorem recordFailure_eq (e : EngineError) : recordFailure now x e = Session.writes x.spider
    [.setStatus x.spider .error, .countError x.spider,
      .appendLog now (line x .error .spiderRunner
        ("Spider " ++ quoted x.name ++ " execution failed: " ++ e.message))] := by
  rw [recordFailure, note_eq, Session.setStatus_eq_tell, Session.countError_eq_tell]
  rfl

variable {now x}

theorem run_reconcile (hs : s.Willing) (hid : s.store.has x.spider = true) (code : Int)
    (nanos : Nat) : ∃ t message, s.run (reconcile now x code nanos) = (.ok (), t) ∧
      t.store.notes = s.store.notes ++ [(line x (exitLevel code) .spiderRunner message).note] := by
  by_cases hc : code = 0
  · subst hc
    rw [reconcile_zero_eq, hs.run_writes hid]
    exact ⟨_, _, rfl, Store.notes_logged now _ _⟩
  · rw [reconcile_nonzero_eq now x hc, hs.run_writes hid, exitLevel, if_neg hc]
    exact ⟨_, _, rfl, Store.notes_logged now _ _⟩

theorem run_recordFailure (hs : s.Willing) (hid : s.store.has x.spider = true) (e : EngineError) :
    ∃ t message, s.run (recordFailure now x e) = (.ok (), t) ∧
      t.store.notes = s.store.notes ++ [(line x .error .spiderRunner message).note] := by
  rw [recordFailure_eq, hs.run_writes hid]
  exact ⟨_, _, rfl, Store.notes_logged now _ _⟩

theorem run_markStopped {spider : Int} (now : Instant) (execution : String) (hs : s.Willing)
    (hid : s.store.has spider = true) (readable : ∃ found, s.store.spider? spider = .ok found) :
    ∃ t message, s.run (markStopped now spider execution) = (.ok (), t) ∧
      t.store.notes = s.store.notes ++
        [(⟨spider, .warning, .spiderRunner, message, some execution⟩ : NewLog).note] := by
  obtain ⟨found, hf⟩ := readable
  have hwilling : SharedStore.Willing { s with asked := s.asked + 1 } :=
    ⟨hs.refusal, hs.poisoned⟩
  have written (name : String) : ∃ t message,
      SharedStore.run { s with asked := s.asked + 1 } (do
        Session.setStatus spider .stopped
        note now ⟨spider, name, execution⟩ .warning .spiderRunner
          ("Spider " ++ quoted name ++ " was stopped manually")) = (.ok (), t) ∧
      t.store.notes = s.store.notes ++
        [(⟨spider, .warning, .spiderRunner, message, some execution⟩ : NewLog).note] := by
    let entry := line ⟨spider, name, execution⟩ .warning .spiderRunner
      ("Spider " ++ quoted name ++ " was stopped manually")
    have hrun := hwilling.run_writes hid [.setStatus spider .stopped, .appendLog now entry]
    rw [note_eq, Session.setStatus_eq_tell]
    exact ⟨_, _, hrun, Store.notes_logged now entry _⟩
  rw [markStopped, SharedStore.run_bind, Session.spider?_eq, hs.run_look hf]
  cases found with
  | none => exact written (String.ofList (Text.ofInt spider))
  | some row => exact written row.name

end Bookkeeping

end Spiderworks
