import Spiderworks.Proofs.Engine.Admission

namespace Spiderworks

variable {α β : Type} {P : Int → Prop} {s : Setup} {h : Hub} {t u v : Store}

-- What holds of the row of a spider later on. Its status may be another one only if somebody may
-- have written one.
structure SpiderRow.Grows (P : Int → Prop) (r r' : SpiderRow) : Prop where
  id : r'.id = r.id
  runs : r.runs ≤ r'.runs
  successes : r.successes ≤ r'.successes
  errors : r.errors ≤ r'.errors
  status : ¬P r.id → r'.status = r.status

-- A later store: nothing of the log is gone, and no row.
structure Store.Grows (P : Int → Prop) (t u : Store) : Prop where
  log : t.logs <+: u.logs
  rows : List.Forall₂ (SpiderRow.Grows P) t.spiders u.spiders

theorem le_bump (n : Int) : n ≤ bump n := by
  unfold bump
  split <;> omega

namespace SpiderRow.Grows

theorem refl (r : SpiderRow) : r.Grows P r :=
  ⟨rfl, Int.le_refl _, Int.le_refl _, Int.le_refl _, fun _ => rfl⟩

theorem trans {a b c : SpiderRow} (hab : a.Grows P b) (hbc : b.Grows P c) : a.Grows P c where
  id := hbc.id.trans hab.id
  runs := Int.le_trans hab.runs hbc.runs
  successes := Int.le_trans hab.successes hbc.successes
  errors := Int.le_trans hab.errors hbc.errors
  status hnot := (hbc.status (hab.id ▸ hnot)).trans (hab.status hnot)

theorem mono {Q : Int → Prop} {a b : SpiderRow} (hab : a.Grows P b)
    (hPQ : ∀ id, P id → Q id) : a.Grows Q b :=
  ⟨hab.id, hab.runs, hab.successes, hab.errors, fun hnot => hab.status fun h => hnot (hPQ _ h)⟩

end SpiderRow.Grows

namespace Store.Grows

theorem refl (t : Store) : t.Grows P t :=
  ⟨List.prefix_refl _, List.forall₂_same.mpr fun r _ => .refl r⟩

theorem trans_rows : ∀ {a b c : List SpiderRow}, List.Forall₂ (SpiderRow.Grows P) a b →
    List.Forall₂ (SpiderRow.Grows P) b c → List.Forall₂ (SpiderRow.Grows P) a c
  | _, _, _, .nil, .nil => .nil
  | _, _, _, .cons hab hrest, .cons hbc hrest' => .cons (hab.trans hbc) (trans_rows hrest hrest')

theorem trans (htu : t.Grows P u) (huv : u.Grows P v) : t.Grows P v :=
  ⟨htu.log.trans huv.log, trans_rows htu.rows huv.rows⟩

theorem mono {Q : Int → Prop} (htu : t.Grows P u) (hPQ : ∀ id, P id → Q id) :
    t.Grows Q u :=
  ⟨htu.log, htu.rows.imp fun _ _ hr => hr.mono hPQ⟩

theorem of_same (hlog : t.logs <+: u.logs) (hrows : u.spiders = t.spiders) : t.Grows P u where
  log := hlog
  rows := by
    rw [hrows]
    exact (refl t).rows

theorem change {id : Int} {f : SpiderRow → SpiderRow}
    (hf : ∀ r : SpiderRow, r.id = id → r.Grows P (f r)) (t : Store) :
    t.Grows P (t.change id f) where
  log := List.prefix_refl _
  rows := by
    refine List.forall₂_map_right_iff.mpr (List.forall₂_same.mpr fun r _ => ?_)
    split
    · exact hf r ‹_›
    · exact .refl r

end Store.Grows

-- ### Sessions

def Session.Grows (P : Int → Prop) (p : Session α) : Prop :=
  ∀ t : SharedStore, t.store.Grows P (t.run p).2.store

namespace Session.Grows

theorem pure (a : α) : Session.Grows P (pure a) := fun t => .refl t.store

theorem bind {p : Session α} {f : α → Session β} (hp : p.Grows P) (hf : ∀ a, (f a).Grows P) :
    (p >>= f).Grows P := by
  intro t
  have hfirst := hp t
  rw [SharedStore.run_bind]
  rcases hr : t.run p with ⟨_ | a, u⟩ <;> rw [hr] at hfirst
  · exact hfirst
  · exact hfirst.trans (hf a u)

theorem hold : Session.hold.Grows P := by
  intro t
  rw [SharedStore.run_hold]
  exact .refl t.store

theorem attempt {r : Request} {f : Store → Except StoreError (α × Store)}
    (hf : ∀ t a u, f t = .ok (a, u) → t.Grows P u) : (Session.attempt r f).Grows P := by
  intro t
  rw [SharedStore.run_attempt]
  split
  · exact .refl t.store
  · split
    · exact .refl t.store
    · rename_i a u hu
      exact hf t.store a u hu

theorem tell {r : Request} {f : Store → Except StoreError Store}
    (hf : ∀ t u, f t = .ok u → t.Grows P u) : (Session.tell r f).Grows P := by
  refine attempt fun t _ u hu => ?_
  obtain ⟨v, hv, he⟩ := map_eq_ok_iff.mp hu
  cases he
  exact hf t u hv

theorem look {r : Request} {f : Store → Except StoreError α} : (Session.look r f).Grows P := by
  refine attempt fun t _ u hu => ?_
  obtain ⟨a, -, he⟩ := map_eq_ok_iff.mp hu
  cases he
  exact .refl t

theorem update {r : Request} {id : Int} {f : SpiderRow → SpiderRow}
    (hf : ∀ row : SpiderRow, row.id = id → row.Grows P (f row)) :
    (Session.tell r (·.update id f)).Grows P := by
  refine tell fun t u hu => ?_
  unfold Store.update at hu
  split at hu <;> cases hu
  exact .change hf t

theorem setStatus {id : Int} (hid : P id) (status : Status) :
    (Session.setStatus id status).Grows P := by
  rw [Session.setStatus_eq]
  exact update fun row hrow =>
    ⟨rfl, Int.le_refl _, Int.le_refl _, Int.le_refl _, fun hnot => absurd (hrow ▸ hid) hnot⟩

theorem countRun (now : Time.Instant) (id : Int) : (Session.countRun now id).Grows P := by
  rw [Session.countRun_eq]
  exact update fun row _ => ⟨rfl, le_bump _, Int.le_refl _, Int.le_refl _, fun _ => rfl⟩

theorem countSuccess (id : Int) : (Session.countSuccess id).Grows P := by
  rw [Session.countSuccess_eq]
  exact update fun row _ => ⟨rfl, Int.le_refl _, le_bump _, Int.le_refl _, fun _ => rfl⟩

theorem countError (id : Int) : (Session.countError id).Grows P := by
  rw [Session.countError_eq]
  exact update fun row _ => ⟨rfl, Int.le_refl _, Int.le_refl _, le_bump _, fun _ => rfl⟩

theorem spider? (id : Int) : (Session.spider? id).Grows P := by
  rw [Session.spider?_eq]
  exact look

theorem appendLog (now : Time.Instant) (n : NewLog) : (Session.appendLog now n).Grows P := by
  rw [Session.appendLog_eq]
  refine attempt fun t id u hu => ?_
  have hrows := Store.appendLog_spiders hu
  unfold Store.appendLog at hu
  split at hu <;> cases hu
  exact .of_same (List.prefix_append _ _) hrows

theorem appendLogs (entries : List (NewLog × Time.Instant)) :
    (Session.appendLogs entries).Grows P := by
  rw [Session.appendLogs_eq]
  refine tell fun t u hu => ?_
  induction entries generalizing t with
  | nil =>
      cases hu
      exact .refl _
  | cons entry rest ih =>
      rw [Store.appendLogs] at hu
      obtain ⟨⟨id, v⟩, hv, hu⟩ := bind_eq_ok_iff.mp hu
      refine Store.Grows.trans ?_ (ih v hu)
      have hrows := Store.appendLog_spiders hv
      unfold Store.appendLog at hv
      split at hv <;> cases hv
      exact .of_same (List.prefix_append _ _) hrows

theorem registerNew (now : Time.Instant) (n : NewFile) : (Ingest.registerNew now n).Grows P := by
  have hregister : (Session.registerFile now n).Grows P := by
    rw [Session.registerFile_eq]
    refine attempt fun t id u hu => .of_same ?_ (Store.registerFile_spiders hu)
    unfold Store.registerFile at hu
    dsimp only at hu
    split at hu
    · cases hu
      exact List.prefix_refl _
    · split at hu <;> cases hu
      exact List.prefix_refl _
  rw [Ingest.registerNew, Session.file?_eq]
  refine bind look fun known => ?_
  split
  · exact pure _
  · exact bind hregister fun _ => pure _

theorem note (now : Time.Instant) (x : Bookkeeping.Subject) (level : LogLevel) (source : LogSource)
    (message : String) : (Bookkeeping.note now x level source message).Grows P :=
  bind (appendLog now _) fun _ => pure _

end Session.Grows

-- ### Entries

namespace Bookkeeping

variable (now later : Time.Instant) {x : Subject} {a : Int}

theorem markStarted_grows (hx : P x.spider) : (markStarted now x).Grows P :=
  (Session.Grows.setStatus hx _).bind fun _ =>
    (Session.Grows.countRun now _).bind fun _ => .note now x _ _ _

theorem reconcile_grows (hx : P x.spider) (code : Int) (nanos : Nat) :
    (reconcile now x code nanos).Grows P := by
  refine (Session.Grows.setStatus hx _).bind fun _ => ?_
  split
  · exact (Session.Grows.countError _).bind fun _ => .note now x _ _ _
  · exact (Session.Grows.countSuccess _).bind fun _ => .note now x _ _ _

theorem recordFailure_grows (hx : P x.spider) (e : EngineError) :
    (recordFailure now x e).Grows P :=
  (Session.Grows.setStatus hx _).bind fun _ =>
    (Session.Grows.countError _).bind fun _ => .note now x _ _ _

theorem markStopped_grows (ha : P a) (execution : String) :
    (markStopped now a execution).Grows P := by
  refine (Session.Grows.spider? a).bind fun found => ?_
  cases found <;> exact (Session.Grows.setStatus ha _).bind fun _ => .note now _ _ _ _

theorem letIn_grows (minutes : Nat) (execution : String) :
    (letIn now later minutes a execution).Grows P := by
  refine (Session.Grows.spider? a).bind fun found => ?_
  cases found with
  | none => exact .pure _
  | some row =>
      have hsetting : (Session.setting? RateLimit.settingKey).Grows P := by
        rw [Session.setting?_eq]
        exact .look
      refine hsetting.bind fun text => ?_
      dsimp only
      split
      · exact .pure _
      · exact (Session.Grows.note now _ _ _ _).bind fun _ =>
          (Session.Grows.countRun later _).bind fun _ => .pure _

theorem recordOutcome_grows (x : Subject) (result : DirectResult) (nanos : Nat) :
    (recordOutcome now x result nanos).Grows P := by
  refine (Session.Grows.note now x _ _ _).bind fun _ => ?_
  split
  · exact .countSuccess _
  · exact .countError _

end Bookkeeping

-- ### Work

def Work.Grows (P : Int → Prop) (w : Work α) : Prop :=
  ∀ x : Site, x.shared.store.Grows P (x.run w).2.shared.store

namespace Work.Grows

theorem pure (a : α) : Work.Grows P (pure a) := fun x => .refl x.shared.store

theorem throw (e : EngineError) : Work.Grows (α := α) P (throw e) := fun x => .refl x.shared.store

theorem bind {w : Work α} {f : α → Work β} (hw : w.Grows P) (hf : ∀ a, (f a).Grows P) :
    (w >>= f).Grows P := by
  intro x
  have hfirst := hw x
  rw [Site.run_bind]
  rcases hr : x.run w with ⟨_ | a, y⟩ <;> rw [hr] at hfirst
  · exact hfirst
  · exact hfirst.trans (hf a y)

theorem session {p : Session α} (hp : p.Grows P) : (Work.session p).Grows P := by
  intro x
  have hheld := (Session.Grows.hold.bind fun _ => hp) x.shared
  rw [Site.run_session]
  rcases hr : x.shared.run (do Session.hold; p) with ⟨_ | a, shared⟩ <;> rw [hr] at hheld <;>
    exact hheld

theorem changeDisk (f : Disk → Except IoError Disk) : (Work.changeDisk f).Grows P := by
  have hdisk : Work.disk.Grows P := fun x => .refl x.shared.store
  refine bind hdisk fun d => ?_
  split
  · exact fun x => .refl x.shared.store
  · exact throw _

end Work.Grows

theorem StartCall.readSpider_grows (spider : Int) : (readSpider spider).Grows P := by
  refine (Work.Grows.session (.spider? spider)).bind fun found => ?_
  cases found
  · exact .throw _
  · exact .pure _

theorem Run.prepare_grows (r : Run) : (r.prepare s).Grows P := by
  unfold Run.prepare
  split
  · exact .throw _
  · exact (Work.Grows.changeDisk _).bind fun _ => (Work.Grows.changeDisk _).bind fun _ => .pure _

theorem Run.doChore_grows (r : Run) (clock : Time.Clock) (c : Chore) :
    (r.doChore s clock c).Grows P := by
  cases c with
  | stream stream text =>
      refine Work.Grows.bind ?_ fun _ => .pure _
      unfold Ingest.saveStream
      split
      · exact .pure _
      · refine Work.Grows.bind (fun x => .refl x.shared.store) fun d => ?_
        split
        · exact .pure _
        · exact Work.Grows.bind (fun x => .refl x.shared.store) fun _ =>
            .session (.registerNew _ _)
  | lines o =>
      simp only [Run.doChore, Ingest.saveLines]
      split
      · exact .pure _
      · exact .session (.appendLogs _)

theorem Run.finalEntry_grows {r : Run} (hr : P r.spider.id) (now : Time.Instant) (e : RunEnd) :
    (r.finalEntry now e).Grows P := by
  cases e with
  | exited o => exact Bookkeeping.reconcile_grows now hr o.code _
  | stopped => exact .pure _
  | failed e => exact Bookkeeping.recordFailure_grows now hr e

-- ### Steps

theorem Hub.work_grows {w : Work α} (hw : w.Grows P) (h : Hub) :
    h.store.Grows P (h.work w).2.store := hw h.site

theorem Hub.store_unregister (h : Hub) (spider : Int) (x : String) :
    (h.unregister spider x).store = h.store := by
  unfold Hub.unregister
  split <;> rfl

theorem Hub.store_removeFile (s : Setup) (path : String) (h : Hub) :
    (h.removeFile s path).store = h.store := by
  unfold Hub.removeFile
  split <;> rfl

theorem Hub.store_launch (s : Setup) (h : Hub) (spider : Int) (p : Stored) (l : Launch) :
    (h.launch s spider p l).2.store = h.store := by
  unfold Hub.launch
  split <;> rfl

-- A step writes statuses only with an entry of its own.
def Event.Writes (o : Option Event) (id : Int) : Prop :=
  ∃ event ∈ o, event.isEntry = true ∧ event.spider = id

theorem StartCall.step_grows (i : Nat) (c : StartCall) (h : Hub) :
    h.store.Grows (Event.Writes (c.event? s i h)) (c.step s h).2.2.store := by
  obtain ⟨spider, stage⟩ := c
  cases stage with
  | asking =>
      simp only [step, nextStage, stepAsking]
      split <;> exact .refl _
  | reading =>
      have hw := Hub.work_grows (P := Event.Writes (event? s i ⟨spider, .reading⟩ h))
        (readSpider_grows spider) h
      simp only [step, nextStage, stepReading]
      split <;> rename_i he <;> rw [he] at hw <;> exact hw
  | registering d =>
      simp only [step, nextStage, stepRegistering]
      split <;> exact .refl _
  | marking d x n =>
      have hentry : Event.Writes (event? s i ⟨spider, .marking d x n⟩ h) d.id := ⟨_, rfl, rfl, rfl⟩
      have hw := Hub.work_grows (.session (Bookkeeping.markStarted_grows (h.readClock s).1
        (x := ⟨d.id, d.name, x⟩) hentry)) (h.readClock s).2
      simp only [step, nextStage, stepMarking]
      split <;> rename_i he <;> rw [he] at hw <;> exact hw
  | withdrawing x e =>
      rw [show (step s ⟨spider, .withdrawing x e⟩ h).2.2.store = h.store from
        h.store_unregister spider x]
      exact .refl _
  | done r => exact .refl _

theorem Run.step_grows (j : Nat) (r : Run) (m : RunMove) (h : Hub) :
    h.store.Grows (Event.Writes (r.event? j h)) (r.step s m h).2.store := by
  obtain ⟨d, x, n, began, stage⟩ := r
  have same {k : Hub} {o : Option Event} (hk : k.store = h.store) :
      h.store.Grows (Event.Writes o) k.store := hk ▸ .refl _
  cases stage with
  | preparing =>
      have hw := Hub.work_grows (P := Event.Writes none)
        (Run.prepare_grows (s := s) ⟨d, x, n, began, .preparing⟩) h
      simp only [step, nextStage, stepPreparing]
      split <;> rename_i he <;> rw [he] at hw <;> exact hw
  | prepared p =>
      have hl := Hub.store_launch s h d.id p (Run.launchOf s ⟨d, x, n, began, .prepared p⟩ p)
      simp only [step, nextStage, stepPrepared]
      split
      · exact same (h.store_removeFile s p.path)
      · split <;> rename_i he <;> rw [he] at hl
        · exact same hl
        · exact same ((Hub.store_removeFile s p.path _).trans hl)
  | watching p c =>
      cases m with
      | onward =>
          simp only [step, nextStage, stepWatching]
          split <;> exact .refl _
      | heed =>
          simp only [step, nextStage, stepWatching]
          split <;> exact .refl _
      | lose e => exact same (h.store_removeFile s p.path)
  | saving p chores e =>
      cases chores with
      | nil => exact .refl _
      | cons c rest =>
          let r : Run := ⟨d, x, n, began, .saving p (c :: rest) e⟩
          have hw := Hub.work_grows (P := Event.Writes none)
            (r.doChore_grows (s := s) (h.readTimes s (r.readings c)).1 c)
            (h.readTimes s (r.readings c)).2
          simp only [step, nextStage, stepSaving]
          split <;> rename_i he <;> rw [he] at hw <;> exact hw
  | registering p files e =>
      cases files with
      | nil => exact same (h.store_removeFile s p.path)
      | cons f rest =>
          have hw := Hub.work_grows (P := Event.Writes none)
            (w := Ingest.registerFound s.layout (h.readClock s).1
              (Run.files ⟨d, x, n, began, .registering p (f :: rest) e⟩) f)
            (.session (.registerNew _ _)) (h.readClock s).2
          simp only [step, nextStage, stepRegistering]
          split <;> rename_i he <;> rw [he] at hw <;> exact hw
  | ended e =>
      cases e with
      | stopped => exact .refl _
      | _ =>
          simp only [step, nextStage, stepEnded]
          split <;> exact .refl _
  | claimed e =>
      have hentry : Event.Writes (event? j ⟨d, x, n, began, .claimed e⟩ h) d.id :=
        ⟨_, rfl, rfl, rfl⟩
      exact Hub.work_grows (.session (Run.finalEntry_grows
        (r := ⟨d, x, n, began, .claimed e⟩) hentry (h.readClock s).1 e)) (h.readClock s).2
  | leaving => exact same (h.store_unregister d.id x)
  | _ => exact .refl _

theorem StopCall.step_grows (k : Nat) (c : StopCall) (m : StopMove) (h : Hub) :
    h.store.Grows (Event.Writes (c.event? k m h)) (c.step s m h).2.store := by
  obtain ⟨spider, stage⟩ := c
  cases stage with
  | asking =>
      simp only [step, nextStage, stepAsking]
      split <;> exact .refl _
  | settling t => cases m <;> exact .refl _
  | marking t =>
      have hentry : Event.Writes (event? k m ⟨spider, .marking t⟩ h) spider := ⟨_, rfl, rfl, rfl⟩
      exact Hub.work_grows (.session (Bookkeeping.markStopped_grows (h.readClock s).1 hentry
        t.execution)) (h.readClock s).2
  | leaving t result =>
      rw [show (step s m ⟨spider, .leaving t result⟩ h).2.store = h.store from
        h.store_unregister spider t.execution]
      exact .refl _
  | _ => exact .refl _

theorem DirectCall.step_grows (c : DirectCall) (m : DirectMove) (h : Hub) :
    h.store.Grows P (c.step s m h).2.store := by
  obtain ⟨spider, code, x, began, stage⟩ := c
  cases stage with
  | admitting =>
      have hw := Hub.work_grows (P := P) (.session (Bookkeeping.letIn_grows (h.readClock s).1
        ((h.readClock s).2.readClock s).1 (a := spider) s.minutes x))
        ((h.readClock s).2.readClock s).2
      simp only [step, nextStage, stepAdmitting]
      split <;> rename_i he <;> rw [he] at hw <;> exact hw
  | preparing d =>
      simp only [step, nextStage, stepPreparing]
      split <;> exact .refl _
  | prepared d p =>
      have hl := Hub.store_launch s h spider p
        (DirectCall.launchOf ⟨spider, code, x, began, .prepared d p⟩ p)
      simp only [step, nextStage, stepPrepared]
      split <;> rename_i he <;> rw [he] at hl
      · exact hl ▸ .refl _
      · exact ((Hub.store_removeFile s p.path _).trans hl) ▸ .refl _
  | watching d p child => exact (Hub.store_removeFile s p.path h) ▸ .refl _
  | recording d o =>
      exact Hub.work_grows (.session (Bookkeeping.recordOutcome_grows _ _ _ _)) (h.readClock s).2
  | done r => exact .refl _

-- ### After every interleaving

namespace Engine

variable {e : Engine}

theorem grows_act (e : Engine) (a : Action) :
    e.hub.store.Grows (Event.Writes (e.event? s a)) (e.act s a).hub.store := by
  cases a with
  | start i =>
      simp only [act, moveStart, event?]
      cases e.starts[i]? with
      | none => exact .refl _
      | some c => exact c.step_grows i e.hub
  | run j m =>
      simp only [act, moveRun, event?]
      cases e.runs[j]? with
      | none => exact .refl _
      | some r => exact r.step_grows j m e.hub
  | stop k m =>
      simp only [act, moveStop, event?]
      cases e.stops[k]? with
      | none => exact .refl _
      | some c => exact c.step_grows k m e.hub
  | call i m =>
      simp only [act, moveCall, event?]
      cases e.calls[i]? with
      | none => exact .refl _
      | some c => exact c.step_grows m e.hub
  | _ => exact .refl _

theorem grows (e : Engine) (actions : List Action) :
    e.hub.store.Grows (fun id => ∃ event ∈ e.history s actions, event.isEntry = true ∧
      event.spider = id) (e.perform s actions).hub.store := by
  induction actions generalizing e with
  | nil => exact .refl _
  | cons a rest ih =>
      refine ((e.grows_act (s := s) a).mono ?_).trans ((ih (e.act s a)).mono ?_)
      · rintro id ⟨event, he, hentry, hid⟩
        exact ⟨event, List.mem_append_left _ (Option.mem_toList.mpr he), hentry, hid⟩
      · rintro id ⟨event, he, hentry, hid⟩
        exact ⟨event, List.mem_append_right _ he, hentry, hid⟩

end Engine

end Spiderworks
