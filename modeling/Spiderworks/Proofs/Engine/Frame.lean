import Spiderworks.Proofs.Engine.History
import Spiderworks.Proofs.Store.Frame

namespace Spiderworks

variable {α γ : Type} {g : List SpiderRow → γ} {s : Setup} {h : Hub}

def SpiderRow.state (r : SpiderRow) : Int × String := (r.id, r.status)

theorem Session.Keeps.update_map {v : SpiderRow → γ} {r : Request} {f : SpiderRow → SpiderRow}
    {id : Int} (hf : ∀ row, v (f row) = v row) :
    (Session.tell r (·.update id f)).Keeps (List.map v) := by
  refine update fun rows => ?_
  rw [List.map_map]
  refine List.map_congr_left fun row _ => ?_
  rw [Function.comp_apply]
  split
  · exact hf row
  · rfl

namespace Session.Keeps

theorem setStatus {v : SpiderRow → γ} (id : Int) (status : Status)
    (hv : ∀ (r : SpiderRow) (status : String), v { r with status := status } = v r) :
    (Session.setStatus id status).Keeps (List.map v) := by
  rw [Session.setStatus_eq]
  exact update_map fun r => hv r _

theorem countRun {v : SpiderRow → γ} (now : Time.Instant) (id : Int)
    (hv : ∀ (r : SpiderRow) (runs : Int) (lastRun : Option String),
      v { r with runs := runs, lastRun := lastRun } = v r) :
    (Session.countRun now id).Keeps (List.map v) := by
  rw [Session.countRun_eq]
  exact update_map fun r => hv r _ _

theorem countSuccess {v : SpiderRow → γ} (id : Int)
    (hv : ∀ (r : SpiderRow) (n : Int), v { r with successes := n } = v r) :
    (Session.countSuccess id).Keeps (List.map v) := by
  rw [Session.countSuccess_eq]
  exact update_map fun r => hv r _

theorem countError {v : SpiderRow → γ} (id : Int)
    (hv : ∀ (r : SpiderRow) (n : Int), v { r with errors := n } = v r) :
    (Session.countError id).Keeps (List.map v) := by
  rw [Session.countError_eq]
  exact update_map fun r => hv r _

theorem spider? (id : Int) : (Session.spider? id).Keeps g := by
  rw [Session.spider?_eq]
  exact look

theorem setting? (key : String) : (Session.setting? key).Keeps g := by
  rw [Session.setting?_eq]
  exact look

end Session.Keeps

-- ### Entries

namespace Bookkeeping

variable (now later : Time.Instant) (x : Subject)

-- The entry of a request to stop reaches the status alone.
theorem markStopped_keeps {v : SpiderRow → γ}
    (hv : ∀ (r : SpiderRow) (status : String), v { r with status := status } = v r)
    (spider : Int) (execution : String) :
    (markStopped now spider execution).Keeps (List.map v) := by
  refine (Session.Keeps.spider? spider).bind fun found => ?_
  cases found <;>
    exact (Session.Keeps.setStatus _ _ hv).bind fun _ => .note now _ _ _ _

theorem letIn_keeps (minutes : Nat) (spider : Int) (execution : String) :
    (letIn now later minutes spider execution).Keeps (List.map SpiderRow.state) := by
  refine (Session.Keeps.spider? spider).bind fun found => ?_
  cases found with
  | none => exact .pure _
  | some row =>
      refine (Session.Keeps.setting? _).bind fun text => ?_
      dsimp only
      split
      · exact .pure _
      · exact (Session.Keeps.note now _ _ _ _).bind fun _ =>
          (Session.Keeps.countRun later _ fun _ _ _ => rfl).bind fun _ => .pure _

theorem recordOutcome_keeps (result : DirectResult) (nanos : Nat) :
    (recordOutcome now x result nanos).Keeps (List.map SpiderRow.state) := by
  refine (Session.Keeps.note now x _ _ _).bind fun _ => ?_
  split
  · exact .countSuccess _ fun _ _ => rfl
  · exact .countError _ fun _ _ => rfl

end Bookkeeping

-- ### The hub

def Hub.Same (g : List SpiderRow → γ) (h k : Hub) : Prop := h.site.shared.Same g k.site.shared

theorem Hub.Same.refl (h : Hub) : h.Same g h := SharedStore.Same.refl _

theorem Hub.same_work {w : Work α} (hw : w.Keeps g) (h : Hub) : h.Same g (h.work w).2 := hw h.site

theorem Hub.same_unregister (h : Hub) (spider : Int) (x : String) :
    h.Same g (h.unregister spider x) := by
  unfold Hub.unregister
  split <;> exact .refl _

-- Work on the site, and everything else that registers nobody and names nothing.
structure Hub.Quiet (before after : Hub) : Prop where
  registry : after.registry = before.registry
  named : after.named = before.named

theorem Hub.Quiet.work (h : Hub) (w : Work α) : h.Quiet (h.work w).2 := ⟨rfl, rfl⟩

theorem Hub.named_unregister (h : Hub) (spider : Int) (x : String) :
    (h.unregister spider x).named = h.named := by
  unfold Hub.unregister
  split <;> rfl

-- A quiet step that also leaves alone what `g` reads of the spiders.
structure Hub.Spares (g : List SpiderRow → γ) (before after : Hub) : Prop
    extends Hub.Quiet before after where
  same : before.Same g after

namespace Hub.Spares

theorem refl (h : Hub) : h.Spares g h := ⟨⟨rfl, rfl⟩, .refl h⟩

theorem trans {a b c : Hub} (h : a.Spares g b) (k : b.Spares g c) : a.Spares g c :=
  ⟨⟨k.registry.trans h.registry, k.named.trans h.named⟩, SharedStore.Same.trans h.same k.same⟩

theorem work {w : Work α} (hw : w.Keeps g) (h : Hub) : h.Spares g (h.work w).2 :=
  ⟨.work h w, Hub.same_work hw h⟩

theorem readClock (s : Setup) (h : Hub) : h.Spares g (h.readClock s).2 := ⟨⟨rfl, rfl⟩, .refl h⟩

theorem readTimes (s : Setup) (n : Nat) (h : Hub) : h.Spares g (h.readTimes s n).2 :=
  ⟨⟨rfl, rfl⟩, .refl h⟩

theorem removeFile (s : Setup) (path : String) (h : Hub) :
    h.Spares g (h.removeFile s path) := by
  unfold Hub.removeFile
  split <;> exact ⟨⟨rfl, rfl⟩, .refl _⟩

theorem launch (s : Setup) (h : Hub) (spider : Int) (p : Stored) (l : Launch) :
    h.Spares g (h.launch s spider p l).2 := by
  unfold Hub.launch
  split <;> exact ⟨⟨rfl, rfl⟩, .refl _⟩

end Hub.Spares

-- ### Start calls

theorem StartCall.readSpider_keeps (spider : Int) : (readSpider spider).Keeps g := by
  refine (Work.Keeps.session (.spider? spider)).bind fun found => ?_
  cases found
  · exact .throw _
  · exact .pure _

theorem StartCall.step_same {c : StartCall} (hs : ∀ d x n, c.stage ≠ .marking d x n) :
    h.Same g (c.step s h).2.2 := by
  obtain ⟨spider, stage⟩ := c
  cases stage with
  | asking =>
      simp only [step, nextStage, stepAsking]
      split <;> exact .refl _
  | reading =>
      have hk := Hub.same_work (g := g) (readSpider_keeps spider) h
      simp only [step, nextStage, stepReading]
      split <;> rename_i hw <;> rw [hw] at hk <;> exact hk
  | registering d =>
      simp only [step, nextStage, stepRegistering]
      split <;> exact .refl _
  | marking d x n => exact absurd rfl (hs d x n)
  | withdrawing x e => exact Hub.same_unregister h spider x
  | done r => exact .refl _

theorem StartCall.step_named (c : StartCall) (h : Hub) :
    h.named ≤ (c.step s h).2.2.named ∧ ∀ i j a x n, .registered j a x n ∈ c.event? s i h →
      x = s.names h.named ∧ h.named < (c.step s h).2.2.named := by
  obtain ⟨spider, stage⟩ := c
  cases stage with
  | asking =>
      simp only [step, nextStage, stepAsking, event?]
      split <;> simp
  | reading =>
      have hw := Hub.Quiet.work h (readSpider spider)
      simp only [step, nextStage, stepReading, event?]
      split <;> rename_i he <;> rw [he] at hw <;> exact ⟨Nat.le_of_eq hw.named.symm, nofun⟩
  | registering d =>
      have hn : h.named < (step s ⟨spider, .registering d⟩ h).2.2.named := by
        simp only [step, nextStage, stepRegistering]
        split <;> exact Nat.lt_succ_self _
      refine ⟨Nat.le_of_lt hn, fun i j a x n hm => ?_⟩
      obtain ⟨r, hr, he⟩ := Option.map_eq_some_iff.mp hm
      cases he
      exact ⟨rfl, hn⟩
  | marking d x n =>
      have hw := Hub.Quiet.work (h.readClock s).2 (Work.session
        (Bookkeeping.markStarted (h.readClock s).1 ⟨d.id, d.name, x⟩))
      simp only [step, nextStage, stepMarking, event?]
      split <;> rename_i he <;> rw [he] at hw <;> exact ⟨Nat.le_of_eq hw.named.symm, nofun⟩
  | withdrawing x e =>
      refine ⟨Nat.le_of_eq (h.named_unregister spider x).symm, fun i j a y n hm => ?_⟩
      obtain ⟨r, hr, he⟩ := Option.map_eq_some_iff.mp hm
      cases he
  | done r => exact ⟨Nat.le_refl _, nofun⟩

-- ### Runs

-- The end that a run has come to.
def RunStage.end? : RunStage → Option RunEnd
  | .saving _ _ e | .scanning _ e | .registering _ _ e | .ended e | .claimed e => some e
  | _ => none

def RunStage.isStopping (stage : RunStage) : Bool := stage.end?.any (·.isStopped)

-- Until it has tried to claim its end.
def RunStage.isOpen : RunStage → Bool
  | .claimed _ | .leaving | .signing | .done => false
  | _ => true

theorem Run.prepare_keeps (r : Run) : (r.prepare s).Keeps g := by
  unfold Run.prepare
  split
  · exact .throw _
  · exact (Work.Keeps.changeDisk _).bind fun _ => (Work.Keeps.changeDisk _).bind fun _ => .pure _

theorem Run.doChore_keeps (r : Run) (clock : Time.Clock) (c : Chore) :
    (r.doChore s clock c).Keeps g := by
  cases c with
  | stream stream text =>
      refine Work.Keeps.bind ?_ fun _ => .pure _
      unfold Ingest.saveStream
      split
      · exact .pure _
      · refine Work.Keeps.disk.bind fun d => ?_
        split
        · exact .pure _
        · exact (Work.Keeps.setDisk _).bind fun _ => .session (.registerNew _ _)
  | lines o =>
      simp only [Run.doChore, Ingest.saveLines]
      split
      · exact .pure _
      · exact .session (.appendLogs _)

-- Before it is at its end a run leaves the registrations and the rows of spiders alone, and stops
-- only when it is asked to.
theorem Run.nextStage_open {r : Run} (m : RunMove) (ho : r.stage.isOpen = true)
    (he : ∀ e, r.stage ≠ .ended e) :
    (r.nextStage s m h).1.isOpen = true ∧
      ((r.nextStage s m h).1.isStopping = true →
        r.stage.isStopping = true ∨ (r.signals h).cancel = true) ∧
      (h.Spares g (r.nextStage s m h).2 ∨ ∃ pid,
        (h.setRegistry (h.registry.attach r.spider.id r.execution pid)).Spares g
          (r.nextStage s m h).2) := by
  obtain ⟨d, x, n, began, stage⟩ := r
  cases stage with
  | preparing =>
      simp only [nextStage, stepPreparing]
      have hw := Hub.Spares.work (g := g)
        (Run.prepare_keeps (s := s) ⟨d, x, n, began, .preparing⟩) h
      split <;> rename_i he <;> rw [he] at hw
      · exact ⟨rfl, nofun, .inl hw⟩
      · exact ⟨rfl, nofun, .inl hw⟩
  | prepared p =>
      simp only [nextStage, stepPrepared]
      split
      · rename_i hc
        exact ⟨rfl, fun _ => .inr hc, .inl (.removeFile s _ h)⟩
      · have hw := Hub.Spares.launch (g := g) s h d.id p
          (Run.launchOf s ⟨d, x, n, began, .prepared p⟩ p)
        split <;> rename_i he <;> rw [he] at hw
        · exact ⟨rfl, nofun, .inl (hw.trans ⟨⟨rfl, rfl⟩, .refl _⟩)⟩
        · exact ⟨rfl, nofun, .inl (hw.trans (.removeFile s _ _))⟩
  | launched p c => exact ⟨rfl, nofun, .inr ⟨_, .refl _⟩⟩
  | watching p c =>
      cases m with
      | onward =>
          simp only [nextStage, stepWatching]
          split <;> exact ⟨rfl, nofun, .inl (.refl h)⟩
      | heed =>
          simp only [nextStage, stepWatching]
          split
          · rename_i hc
            exact ⟨rfl, fun _ => .inr hc, .inl (.refl h)⟩
          · exact ⟨rfl, nofun, .inl (.refl h)⟩
      | lose e => exact ⟨rfl, nofun, .inl (.removeFile s _ h)⟩
  | saving p chores e =>
      cases chores with
      | nil => exact ⟨rfl, .inl, .inl (.refl h)⟩
      | cons c rest =>
          let r : Run := ⟨d, x, n, began, .saving p (c :: rest) e⟩
          have hw := (Hub.Spares.readTimes (g := g) s (r.readings c) h).trans
            (.work (r.doChore_keeps (s := s) (h.readTimes s (r.readings c)).1 c) _)
          simp only [nextStage, stepSaving]
          split <;> rename_i he <;> rw [he] at hw
          · exact ⟨rfl, .inl, .inl hw⟩
          · exact ⟨rfl, .inl, .inl hw⟩
  | scanning p e => exact ⟨rfl, .inl, .inl (.refl h)⟩
  | registering p files e =>
      cases files with
      | nil => exact ⟨rfl, .inl, .inl (.removeFile s _ h)⟩
      | cons f rest =>
          have hw := (Hub.Spares.readClock (g := g) s h).trans (.work
            (w := Ingest.registerFound s.layout (h.readClock s).1
              (Run.files ⟨d, x, n, began, .registering p (f :: rest) e⟩) f)
            (.session (.registerNew _ _)) _)
          simp only [nextStage, stepRegistering]
          split <;> rename_i he <;> rw [he] at hw
          · exact ⟨rfl, .inl, .inl hw⟩
          · exact ⟨rfl, .inl, .inl hw⟩
  | ended e => exact absurd rfl (he e)
  | claimed e => cases ho
  | leaving => cases ho
  | signing => cases ho
  | done => cases ho

-- Only the final entry reaches the rows of spiders.
theorem Run.step_same {r : Run} (m : RunMove) (hs : ∀ e, r.stage ≠ .claimed e) :
    h.Same g (r.step s m h).2 := by
  by_cases hopen : r.stage.isOpen = true ∧ ∀ e, r.stage ≠ .ended e
  · obtain ⟨-, -, hq | ⟨pid, hq⟩⟩ := Run.nextStage_open (s := s) (h := h) m hopen.1 hopen.2
    · exact hq.same
    · exact hq.same
  · obtain ⟨d, x, n, began, stage⟩ := r
    cases stage with
    | ended e =>
        cases e with
        | stopped => exact .refl _
        | exited o =>
            simp only [step, nextStage, stepEnded]
            split <;> exact .refl _
        | failed e =>
            simp only [step, nextStage, stepEnded]
            split <;> exact .refl _
    | claimed e => exact absurd rfl (hs e)
    | leaving => exact Hub.same_unregister h _ _
    | signing => exact .refl _
    | done => exact .refl _
    | _ => exact absurd ⟨rfl, nofun⟩ hopen

theorem Run.step_named (r : Run) (m : RunMove) (h : Hub) : (r.step s m h).2.named = h.named := by
  by_cases hopen : r.stage.isOpen = true ∧ ∀ e, r.stage ≠ .ended e
  · obtain ⟨-, -, hq | ⟨pid, hq⟩⟩ :=
      Run.nextStage_open (s := s) (h := h) (g := id) m hopen.1 hopen.2
    · exact hq.named
    · exact hq.named
  · obtain ⟨d, x, n, began, stage⟩ := r
    cases stage with
    | ended e =>
        cases e with
        | stopped => rfl
        | exited o =>
            simp only [step, nextStage, stepEnded]
            split <;> rfl
        | failed e =>
            simp only [step, nextStage, stepEnded]
            split <;> rfl
    | claimed e => rfl
    | leaving => exact h.named_unregister d.id x
    | signing => rfl
    | done => rfl
    | _ => exact absurd ⟨rfl, nofun⟩ hopen

-- ### Stop calls

theorem StopCall.step_same {c : StopCall} (m : StopMove) (hs : ∀ t, c.stage ≠ .marking t) :
    h.Same g (c.step s m h).2 := by
  obtain ⟨spider, stage⟩ := c
  cases stage with
  | asking =>
      simp only [step, nextStage, stepAsking]
      split <;> exact .refl _
  | cancelling t => exact .refl _
  | settling t => cases m <;> exact .refl _
  | marking t => exact absurd rfl (hs t)
  | leaving t result => exact Hub.same_unregister h _ _
  | following t => exact .refl _
  | done r => exact .refl _

theorem StopCall.step_same_but_status {v : SpiderRow → γ}
    (hv : ∀ (r : SpiderRow) (status : String), v { r with status := status } = v r)
    (c : StopCall) (m : StopMove) : h.Same (List.map v) (c.step s m h).2 := by
  by_cases hs : ∃ t, c.stage = .marking t
  · obtain ⟨spider, stage⟩ := c
    obtain ⟨t, rfl⟩ := hs
    exact Hub.same_work (.session (Bookkeeping.markStopped_keeps (h.readClock s).1 hv spider
      t.execution)) (h.readClock s).2
  · exact step_same m fun t he => hs ⟨t, he⟩

theorem StopCall.step_named (c : StopCall) (m : StopMove) (h : Hub) :
    (c.step s m h).2.named = h.named := by
  obtain ⟨spider, stage⟩ := c
  cases stage with
  | asking =>
      simp only [step, nextStage, stepAsking]
      split <;> rfl
  | settling t => cases m <;> rfl
  | leaving t result => exact h.named_unregister spider t.execution
  | _ => rfl

-- ### Direct calls

theorem DirectCall.step_spares (c : DirectCall) (m : DirectMove) (h : Hub) :
    h.Spares (List.map SpiderRow.state) (c.step s m h).2 := by
  obtain ⟨spider, code, x, began, stage⟩ := c
  cases stage with
  | admitting =>
      have hw := ((Hub.Spares.readClock s h).trans (.readClock s _)).trans (.work
        (.session (Bookkeeping.letIn_keeps (h.readClock s).1 ((h.readClock s).2.readClock s).1
          s.minutes spider x)) _)
      simp only [step, nextStage, stepAdmitting]
      split <;> rename_i he <;> rw [he] at hw <;> exact hw
  | preparing d =>
      simp only [step, nextStage, stepPreparing]
      split <;> exact ⟨⟨rfl, rfl⟩, .refl _⟩
  | prepared d p =>
      have hw := Hub.Spares.launch (g := List.map SpiderRow.state) s h spider p
        (DirectCall.launchOf ⟨spider, code, x, began, .prepared d p⟩ p)
      simp only [step, nextStage, stepPrepared]
      split <;> rename_i he <;> rw [he] at hw
      · exact hw
      · exact hw.trans (.removeFile s _ _)
  | watching d p child => exact .removeFile s _ h
  | recording d o =>
      exact (Hub.Spares.readClock s h).trans
        (.work (.session (Bookkeeping.recordOutcome_keeps _ _ _ _)) _)
  | done r => exact .refl h

-- Only the two entries of a call reach the rows of spiders.
theorem DirectCall.step_same {c : DirectCall} (m : DirectMove) (hc : c.stage ≠ .admitting)
    (ho : ∀ d o, c.stage ≠ .recording d o) : h.Same g (c.step s m h).2 := by
  obtain ⟨spider, code, x, began, stage⟩ := c
  cases stage with
  | admitting => exact absurd rfl hc
  | preparing d =>
      simp only [step, nextStage, stepPreparing]
      split <;> exact .refl _
  | prepared d p =>
      have hw := Hub.Spares.launch (g := g) s h spider p
        (DirectCall.launchOf ⟨spider, code, x, began, .prepared d p⟩ p)
      simp only [step, nextStage, stepPrepared]
      split <;> rename_i he <;> rw [he] at hw
      · exact hw.same
      · exact (hw.trans (.removeFile s _ _)).same
  | watching d p child => exact (Hub.Spares.removeFile s p.path h).same
  | recording d o => exact absurd rfl (ho d o)
  | done r => exact .refl h

end Spiderworks
