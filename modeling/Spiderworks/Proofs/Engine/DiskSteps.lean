import Spiderworks.Proofs.Disk.Persistence
import Spiderworks.Proofs.Engine.Admission

namespace Spiderworks

variable {α : Type} {s : Setup} {h : Hub} {x : String} {spider : Int} {d d' : Disk}

def Stored.bytes (p : Stored) : List UInt8 := Utf8.encode p.program.source

-- The program that is stored, from when it is written until it is taken away.
def RunStage.program? : RunStage → Option Stored
  | .prepared p | .launched p _ | .watching p _ | .saving p _ _ | .scanning p _
  | .registering p _ _ => some p
  | _ => none

def DirectStage.program? : DirectStage → Option Stored
  | .prepared _ p | .watching _ p _ => some p
  | _ => none

-- What is left of a disk where a file was to be removed.
def Setup.without (s : Setup) (d : Disk) (path : String) : Disk :=
  match s.removeFile d path with
  | .ok d => d
  | .error _ => d

def programExtensions : List String := ["py", "json"]

-- A program that was written where the programs of an execution belong.
structure Stored.Belongs (s : Setup) (spider : Int) (x : String) (p : Stored) : Prop where
  path : p.path = s.layout.script spider x p.program.extension
  extension : p.program.extension ∈ programExtensions

-- What a step does with the program of an execution: the disks and programs before and after it.
inductive Handles (s : Setup) (spider : Int) (x : String) :
    Disk → Option Stored → Disk → Option Stored → Prop
  | rests (d : Disk) (p : Option Stored) : Handles s spider x d p d p
  | writes {d u d' : Disk} {p : Stored} (hu : d.Furnishes u) (hp : p.Belongs s spider x)
      (h : u.write p.path p.bytes = .ok d') : Handles s spider x d none d' (some p)
  | removes (d : Disk) (p : Stored) : Handles s spider x d (some p) (s.without d p.path) none

-- What else a run does to the disk.
inductive Run.Leaves (s : Setup) (r : Run) : Disk → Disk → Prop
  | directories {d d' : Disk} (h : d.Furnishes d') : Leaves s r d d'
  | files {d : Disk} {p : Stored} {c : Child} (hp : r.stage = .prepared p)
      (h : s.platform.launch (r.launchOf s p) d = .ok c) :
    Leaves s r d (c.leaveFiles (r.outputDir s) d)
  | log {d d' : Disk} {stream : Stream} {bytes : List UInt8}
      (h : d.writeWithParents (s.layout.streamLog r.spider.id r.execution stream) bytes = .ok d') :
    Leaves s r d d'

theorem Child.leaveFiles_keeps (c : Child) (directory : String) (d : Disk) :
    d.Keeps (c.leaveFiles directory d) := by
  unfold Child.leaveFiles
  generalize c.files = files
  induction files generalizing d with
  | nil => exact .refl d
  | cons f files ih =>
      rw [List.foldl_cons]
      refine Disk.Keeps.trans ?_ (ih _)
      split
      · rename_i hwrite
        exact .writeWithParents hwrite
      · exact .refl d

-- ### Disks without links

theorem Disk.Linkless.without (h : d.Linkless) (s : Setup) (path : String) :
    (s.without d path).Linkless := by
  unfold Setup.without Setup.removeFile
  cases s.removal path d with
  | some e => exact h
  | none =>
      dsimp only
      split
      · rename_i hremove
        exact h.removeFile hremove
      · exact h

theorem Handles.linkless {before after : Option Stored}
    (h : Handles s spider x d before d' after) (hd : d.Linkless) : d'.Linkless := by
  cases h with
  | rests => exact hd
  | writes hu _ hwrite => exact (hd.kept hu.toKeeps).kept (.write hwrite)
  | removes => exact hd.without s _

theorem Run.Leaves.linkless {r : Run} (h : r.Leaves s d d') (hd : d.Linkless) : d'.Linkless := by
  cases h with
  | directories hmade => exact hd.kept hmade.toKeeps
  | files => exact hd.kept (Child.leaveFiles_keeps _ _ d)
  | log hwrite => exact hd.kept (.writeWithParents hwrite)

-- ### The hub

theorem Hub.disk_session (h : Hub) (p : Session α) :
    (h.work (Work.session p)).2.site.disk = h.site.disk := by
  rw [Hub.work, Site.run_session]
  dsimp only
  rcases h.site.shared.run (do Session.hold; p) with ⟨_ | _, t⟩ <;> rfl

theorem Hub.disk_removeFile (s : Setup) (path : String) (h : Hub) :
    (h.removeFile s path).site.disk = s.without h.site.disk path := by
  unfold Hub.removeFile Setup.without
  cases s.removeFile h.site.disk path <;> rfl

theorem Hub.disk_unregister (h : Hub) (spider : Int) (x : String) :
    (h.unregister spider x).site.disk = h.site.disk := by
  unfold Hub.unregister
  split <;> rfl

theorem Hub.work_changeDisk (h : Hub) (f : Disk → Except IoError Disk) :
    h.work (Work.changeDisk f) = match f h.site.disk with
      | .ok d => (.ok (), h.setDisk d)
      | .error e => (.error (.io e), h) := by
  have hdisk : h.work Work.disk = (.ok h.site.disk, h) := rfl
  rw [Work.changeDisk, Hub.work_bind, hdisk]
  dsimp only
  cases f h.site.disk <;> rfl

-- ### Programs

theorem Definition.extension_of_synthesize {def_ : Definition} {l : Launchers} {mode : RunMode}
    {override : Option String} {p : Program} (h : def_.synthesize l x mode override = .ok p) :
    p.extension ∈ programExtensions := by
  unfold Definition.synthesize at h
  split at h
  · obtain ⟨rules, -, rfl⟩ := map_eq_ok_iff.mp h
    simp [programExtensions]
  · rw [← Except.ok.inj h]
    simp [programExtensions]

theorem Run.work_prepare (r : Run) (h : Hub) : h.work (r.prepare s) =
    match r.spider.synthesize s.launchers r.execution .files none with
    | .error e => (.error (.synthesis e), h)
    | .ok program =>
      match h.site.disk.makeDirectories (r.outputDir s) with
      | .error e => (.error (.io e), h)
      | .ok u =>
        let p := s.place r.spider r.execution program
        match u.write p.path p.bytes with
        | .error e => (.error (.io e), h.setDisk u)
        | .ok d => (.ok p, h.setDisk d) := by
  rw [Run.prepare]
  cases r.spider.synthesize s.launchers r.execution .files none with
  | error e => rfl
  | ok program =>
      simp only [Hub.work_bind, Hub.work_changeDisk, Stored.bytes, Setup.place]
      cases h.site.disk.makeDirectories (r.outputDir s) with
      | error e => rfl
      | ok u =>
          simp only [Hub.setDisk]
          cases u.write (s.layout.script r.spider.id r.execution program.extension)
            (Utf8.encode program.source) <;> rfl

-- ### Runs

-- What is stored of a stream is its log; whether the store takes it, is nothing to the disk.
theorem Run.disk_stream (r : Run) (clock : Time.Clock) (stream : Stream) (text : String) (h : Hub) :
    (h.work (r.doChore s clock (.stream stream text))).2.site.disk =
      if text.isEmpty then h.site.disk
      else
        match h.site.disk.writeWithParents
          (s.layout.streamLog r.spider.id r.execution stream) (Utf8.encode text) with
        | .ok d => d
        | .error _ => h.site.disk := by
  have hdisk (h : Hub) : h.work Work.disk = (.ok h.site.disk, h) := rfl
  have hset (h : Hub) (d : Disk) : h.work (Work.setDisk d) = (.ok (), h.setDisk d) := rfl
  have hall (h : Hub) (w : Work Bool) :
      (h.work (do let _ ← w)).2.site.disk = (h.work w).2.site.disk := by
    rw [Hub.work_bind]
    rcases h.work w with ⟨_ | _, k⟩ <;> rfl
  have hpath : (Ingest.streamFile s.layout r.files stream text).path =
      s.layout.streamLog r.spider.id r.execution stream := rfl
  rw [doChore, hall]
  unfold Ingest.saveStream
  split
  · rfl
  · simp only [Hub.work_bind, hdisk, hpath]
    cases h.site.disk.writeWithParents (s.layout.streamLog r.spider.id r.execution stream)
      (Utf8.encode text) with
    | error e => rfl
    | ok d =>
        simp only [Hub.work_bind, hset]
        exact Hub.disk_session _ _

theorem Run.disk_lines (r : Run) (clock : Time.Clock) (o : ProcessOutput) (h : Hub) :
    (h.work (r.doChore s clock (.lines o))).2.site.disk = h.site.disk := by
  simp only [doChore, Ingest.saveLines]
  split
  · rfl
  · exact h.disk_session _

theorem Run.disk_doChore (r : Run) (clock : Time.Clock) (c : Chore) (h : Hub) :
    (h.work (r.doChore s clock c)).2.site.disk = h.site.disk ∨
      r.Leaves s h.site.disk (h.work (r.doChore s clock c)).2.site.disk := by
  cases c with
  | stream stream text =>
      rw [r.disk_stream clock stream text h]
      split
      · exact .inl rfl
      · split
        · rename_i hwrite
          exact .inr (.log hwrite)
        · exact .inl rfl
  | lines o => exact .inl (r.disk_lines clock o h)

theorem Run.step_disk (r : Run) (m : RunMove) (h : Hub) :
    Handles s r.spider.id r.execution h.site.disk r.stage.program? (r.step s m h).2.site.disk
        (r.step s m h).1.stage.program? ∨
      (r.step s m h).1.stage.program? = r.stage.program? ∧
        r.Leaves s h.site.disk (r.step s m h).2.site.disk := by
  -- Nothing is done to the disk, and the program stays.
  have rests {p : Option Stored} {d' : Disk} (hd : d' = h.site.disk) :
      Handles s r.spider.id r.execution h.site.disk p d' p := hd ▸ .rests _ p
  have removes (p : Stored) : Handles s r.spider.id r.execution h.site.disk (some p)
      (h.removeFile s p.path).site.disk none := h.disk_removeFile s p.path ▸ .removes _ p
  obtain ⟨spider, x, n, began, stage⟩ := r
  cases stage with
  | preparing =>
      simp only [step, nextStage, stepPreparing, work_prepare]
      cases hsynthesize : spider.synthesize s.launchers x .files none with
      | error e => exact .inl (rests rfl)
      | ok program =>
          dsimp only
          cases hmake : h.site.disk.makeDirectories
              (outputDir s ⟨spider, x, n, began, .preparing⟩) with
          | error e => exact .inl (rests rfl)
          | ok u =>
              dsimp only
              have hu : h.site.disk.Furnishes u := .makeAll hmake
              have hbelongs : (s.place spider x program).Belongs s spider.id x :=
                ⟨rfl, Definition.extension_of_synthesize hsynthesize⟩
              cases hwrite : u.write (s.place spider x program).path
                (Stored.bytes (s.place spider x program)) with
              | error e => exact .inr ⟨rfl, .directories hu⟩
              | ok d => exact .inl (.writes hu hbelongs hwrite)
  | prepared p =>
      simp only [step, nextStage, stepPrepared]
      split
      · exact .inl (removes p)
      · unfold Hub.launch
        cases hlaunch : s.platform.launch (launchOf s ⟨spider, x, n, began, .prepared p⟩ p)
            h.site.disk with
        | error e => exact .inl (removes p)
        | ok c => exact .inr ⟨rfl, .files rfl hlaunch⟩
  | launched p c => exact .inl (rests rfl)
  | watching p c =>
      cases m with
      | onward =>
          simp only [step, nextStage, stepWatching]
          split <;> exact .inl (rests rfl)
      | heed =>
          simp only [step, nextStage, stepWatching]
          split <;> exact .inl (rests rfl)
      | lose e => exact .inl (removes p)
  | saving p chores e =>
      cases chores with
      | nil => exact .inl (rests rfl)
      | cons c rest =>
          let r : Run := ⟨spider, x, n, began, .saving p (c :: rest) e⟩
          have hchore := r.disk_doChore (s := s) (h.readTimes s (r.readings c)).1 c
            (h.readTimes s (r.readings c)).2
          simp only [step, nextStage, stepSaving]
          split <;> rename_i hwork <;> rw [hwork] at hchore
          · exact hchore.imp rests fun hleaves => ⟨rfl, hleaves⟩
          · exact hchore.imp rests fun hleaves => ⟨rfl, hleaves⟩
  | scanning p e => exact .inl (rests rfl)
  | registering p files e =>
      cases files with
      | nil => exact .inl (removes p)
      | cons f rest =>
          have hdisk := (h.readClock s).2.disk_session (Ingest.registerNew (h.readClock s).1
            (Ingest.foundFile s.layout
              (Run.files ⟨spider, x, n, began, .registering p (f :: rest) e⟩) f.1 f.2))
          simp only [step, nextStage, stepRegistering, Ingest.registerFound]
          split <;> rename_i hwork <;> rw [hwork] at hdisk
          · exact .inl (rests hdisk)
          · exact .inl (rests hdisk)
  | ended e =>
      cases e with
      | stopped => exact .inl (rests rfl)
      | exited o =>
          simp only [step, nextStage, stepEnded]
          split <;> exact .inl (rests rfl)
      | failed e =>
          simp only [step, nextStage, stepEnded]
          split <;> exact .inl (rests rfl)
  | claimed e => exact .inl (rests ((h.readClock s).2.disk_session _))
  | leaving => exact .inl (rests (h.disk_unregister spider.id x))
  | signing => exact .inl (rests rfl)
  | done => exact .inl (rests rfl)

-- ### Direct calls

-- A call has its program where that of the spider it was let in for belongs.
theorem DirectCall.step_disk (c : DirectCall) (m : DirectMove) (h : Hub) : ∃ spider,
    Handles s spider c.execution h.site.disk c.stage.program? (c.step s m h).2.site.disk
      (c.step s m h).1.stage.program? := by
  have rests {p : Option Stored} {d' : Disk} (hd : d' = h.site.disk) :
      ∃ spider, Handles s spider c.execution h.site.disk p d' p := ⟨0, hd ▸ .rests _ p⟩
  have removes (p : Stored) : ∃ spider, Handles s spider c.execution h.site.disk (some p)
      (h.removeFile s p.path).site.disk none := ⟨0, h.disk_removeFile s p.path ▸ .removes _ p⟩
  obtain ⟨spider, code, x, began, stage⟩ := c
  cases stage with
  | admitting =>
      have hdisk := ((h.readClock s).2.readClock s).2.disk_session (Bookkeeping.letIn
        (h.readClock s).1 ((h.readClock s).2.readClock s).1 s.minutes spider x)
      simp only [step, nextStage, stepAdmitting]
      split <;> rename_i hwork <;> rw [hwork] at hdisk <;> exact rests hdisk
  | preparing d =>
      simp only [step, nextStage, stepPreparing, prepare]
      cases hsynthesize : d.synthesize s.launchers x .direct code with
      | error e => exact rests rfl
      | ok program =>
          dsimp only
          cases hwrite : h.site.disk.write (s.place d x program).path
              (Utf8.encode program.source) with
          | error e => exact rests rfl
          | ok u => exact ⟨d.id, .writes (.refl _)
              ⟨rfl, Definition.extension_of_synthesize hsynthesize⟩ hwrite⟩
  | prepared d p =>
      simp only [step, nextStage, stepPrepared]
      unfold Hub.launch
      cases s.platform.launch (launchOf ⟨spider, code, x, began, .prepared d p⟩ p) h.site.disk with
      | error e => exact removes p
      | ok child => exact rests rfl
  | watching d p child => exact removes p
  | recording d o => exact rests ((h.readClock s).2.disk_session _)
  | done r => exact rests rfl

-- ### Starts and stops

theorem StartCall.step_disk (c : StartCall) (h : Hub) :
    (c.step s h).2.2.site.disk = h.site.disk := by
  obtain ⟨spider, stage⟩ := c
  cases stage with
  | asking =>
      simp only [step, nextStage, stepAsking]
      split <;> rfl
  | reading =>
      have hdisk : (h.work (readSpider spider)).2.site.disk = h.site.disk := by
        rw [readSpider, Hub.work_bind]
        have hdisk := h.disk_session (Session.spider? spider)
        split <;> rename_i hwork <;> rw [hwork] at hdisk
        · rw [← hdisk]
          split <;> rfl
        · exact hdisk
      simp only [step, nextStage, stepReading]
      split <;> rename_i hwork <;> rw [hwork] at hdisk <;> exact hdisk
  | registering d =>
      simp only [step, nextStage, stepRegistering]
      split <;> rfl
  | marking d x n =>
      have hdisk := (h.readClock s).2.disk_session
        (Bookkeeping.markStarted (h.readClock s).1 ⟨d.id, d.name, x⟩)
      simp only [step, nextStage, stepMarking]
      split <;> rename_i hwork <;> rw [hwork] at hdisk <;> exact hdisk
  | withdrawing x e => exact h.disk_unregister spider x
  | done r => rfl

-- A run that comes into being has no program yet.
theorem StartCall.program?_run {c : StartCall} {r : Run} (hr : (c.step s h).2.1 = some r) :
    r.stage.program? = none := by
  obtain ⟨spider, stage⟩ := c
  cases stage with
  | marking d x n =>
      simp only [step, nextStage, stepMarking] at hr
      split at hr
      · cases hr
        rfl
      · cases hr
  | _ => cases hr

theorem StopCall.step_disk (c : StopCall) (m : StopMove) (h : Hub) :
    (c.step s m h).2.site.disk = h.site.disk := by
  obtain ⟨spider, stage⟩ := c
  cases stage with
  | asking =>
      simp only [step, nextStage, stepAsking]
      split <;> rfl
  | settling t => cases m <;> rfl
  | marking t => exact (h.readClock s).2.disk_session _
  | leaving t result => exact h.disk_unregister spider t.execution
  | _ => rfl

end Spiderworks
