import Spiderworks.Proofs.Engine.Admission

namespace Spiderworks

variable {α γ : Type} {s : Setup} {h k : Hub}

-- ### Readings of the clock

theorem Hub.readings_work (h : Hub) (w : Work α) : (h.work w).2.readings = h.readings := rfl

theorem Hub.readings_unregister (h : Hub) (spider : Int) (x : String) :
    (h.unregister spider x).readings = h.readings := by
  unfold Hub.unregister
  split <;> rfl

theorem Hub.readings_removeFile (s : Setup) (path : String) (h : Hub) :
    (h.removeFile s path).readings = h.readings := by
  unfold Hub.removeFile
  split <;> rfl

theorem Hub.readings_launch (h : Hub) (spider : Int) (p : Stored) (l : Launch) :
    (h.launch s spider p l).2.readings = h.readings := by
  unfold Hub.launch
  split <;> rfl

theorem StartCall.readings_le (c : StartCall) (h : Hub) :
    h.readings ≤ (c.step s h).2.2.readings := by
  obtain ⟨spider, stage⟩ := c
  cases stage with
  | asking =>
      simp only [step, nextStage, stepAsking]
      split <;> exact Nat.le_refl _
  | reading =>
      have hw := Hub.readings_work h (readSpider spider)
      simp only [step, nextStage, stepReading]
      split <;> rename_i he <;> rw [he] at hw <;> exact Nat.le_of_eq hw.symm
  | registering d =>
      simp only [step, nextStage, stepRegistering]
      split <;> exact Nat.le_refl _
  | marking d x n =>
      have hw := Hub.readings_work (h.readClock s).2
        (Work.session (Bookkeeping.markStarted (h.readClock s).1 ⟨d.id, d.name, x⟩))
      simp only [step, nextStage, stepMarking]
      split <;> rename_i he <;> rw [he] at hw <;>
        exact Nat.le_trans (Nat.le_succ _) (Nat.le_of_eq hw.symm)
  | withdrawing x e => exact Nat.le_of_eq (h.readings_unregister spider x).symm
  | done r => exact Nat.le_refl _

theorem Run.readings_le (r : Run) (m : RunMove) (h : Hub) :
    h.readings ≤ (r.step s m h).2.readings := by
  obtain ⟨d, x, n, began, stage⟩ := r
  cases stage with
  | preparing =>
      have hw := Hub.readings_work h (Run.prepare s ⟨d, x, n, began, .preparing⟩)
      simp only [step, nextStage, stepPreparing]
      split <;> rename_i he <;> rw [he] at hw <;> exact Nat.le_of_eq hw.symm
  | prepared p =>
      simp only [step, nextStage, stepPrepared]
      split
      · exact Nat.le_of_eq (h.readings_removeFile s p.path).symm
      · have hw := h.readings_launch (s := s) d.id p
          (Run.launchOf s ⟨d, x, n, began, .prepared p⟩ p)
        split <;> rename_i he <;> rw [he] at hw
        · exact Nat.le_of_eq hw.symm
        · exact Nat.le_of_eq (hw.symm.trans (Hub.readings_removeFile s _ _).symm)
  | watching p c =>
      cases m with
      | onward =>
          simp only [step, nextStage, stepWatching]
          split <;> exact Nat.le_refl _
      | heed =>
          simp only [step, nextStage, stepWatching]
          split <;> exact Nat.le_refl _
      | lose e => exact Nat.le_of_eq (h.readings_removeFile s p.path).symm
  | saving p chores e =>
      cases chores with
      | nil => exact Nat.le_refl _
      | cons c rest =>
          let r : Run := ⟨d, x, n, began, .saving p (c :: rest) e⟩
          have hw := Hub.readings_work (h.readTimes s (r.readings c)).2
            (r.doChore s (h.readTimes s (r.readings c)).1 c)
          simp only [step, nextStage, stepSaving]
          split <;> rename_i he <;> rw [he] at hw <;>
            exact Nat.le_trans (Nat.le_add_right _ _) (Nat.le_of_eq hw.symm)
  | registering p files e =>
      cases files with
      | nil => exact Nat.le_of_eq (h.readings_removeFile s p.path).symm
      | cons f rest =>
          have hw := Hub.readings_work (h.readClock s).2
            (Ingest.registerFound s.layout (h.readClock s).1
              (Run.files ⟨d, x, n, began, .registering p (f :: rest) e⟩) f)
          simp only [step, nextStage, stepRegistering]
          split <;> rename_i he <;> rw [he] at hw <;>
            exact Nat.le_trans (Nat.le_succ _) (Nat.le_of_eq hw.symm)
  | ended e =>
      cases e with
      | stopped => exact Nat.le_refl _
      | exited o =>
          simp only [step, nextStage, stepEnded]
          split <;> exact Nat.le_refl _
      | failed e =>
          simp only [step, nextStage, stepEnded]
          split <;> exact Nat.le_refl _
  | claimed e => exact Nat.le_succ _
  | leaving => exact Nat.le_of_eq (h.readings_unregister d.id x).symm
  | _ => exact Nat.le_refl _

theorem StopCall.readings_le (c : StopCall) (m : StopMove) (h : Hub) :
    h.readings ≤ (c.step s m h).2.readings := by
  obtain ⟨spider, stage⟩ := c
  cases stage with
  | asking =>
      simp only [step, nextStage, stepAsking]
      split <;> exact Nat.le_refl _
  | settling t => cases m <;> exact Nat.le_refl _
  | marking t => exact Nat.le_succ _
  | leaving t result => exact Nat.le_of_eq (h.readings_unregister spider t.execution).symm
  | _ => exact Nat.le_refl _

theorem DirectCall.readings_le (c : DirectCall) (m : DirectMove) (h : Hub) :
    h.readings ≤ (c.step s m h).2.readings := by
  obtain ⟨spider, code, x, began, stage⟩ := c
  cases stage with
  | admitting =>
      have hw := Hub.readings_work ((h.readClock s).2.readClock s).2 (Work.session
        (Bookkeeping.letIn (h.readClock s).1 ((h.readClock s).2.readClock s).1 s.minutes spider x))
      simp only [step, nextStage, stepAdmitting]
      split <;> rename_i he <;> rw [he] at hw <;>
        exact Nat.le_trans (Nat.le_add_right _ 2) (Nat.le_of_eq hw.symm)
  | preparing d =>
      simp only [step, nextStage, stepPreparing]
      split <;> exact Nat.le_refl _
  | prepared d p =>
      have hw := h.readings_launch (s := s) spider p
        (DirectCall.launchOf ⟨spider, code, x, began, .prepared d p⟩ p)
      simp only [step, nextStage, stepPrepared]
      split <;> rename_i he <;> rw [he] at hw
      · exact Nat.le_of_eq hw.symm
      · exact Nat.le_of_eq (hw.symm.trans (Hub.readings_removeFile s _ _).symm)
  | watching d p child => exact Nat.le_of_eq (h.readings_removeFile s p.path).symm
  | recording d o => exact Nat.le_succ _
  | done r => exact Nat.le_refl _

-- ### Steps that write no time

def SpiderRow.stamp (r : SpiderRow) : Int × Option String := (r.id, r.lastRun)

namespace Bookkeeping

variable (now : Time.Instant) (x : Subject)

theorem reconcile_keeps_stamps (code : Int) (nanos : Nat) :
    (reconcile now x code nanos).Keeps (List.map SpiderRow.stamp) := by
  refine (Session.Keeps.setStatus _ _ fun _ _ => rfl).bind fun _ => ?_
  split
  · exact (Session.Keeps.countError _ fun _ _ => rfl).bind fun _ => .note now x _ _ _
  · exact (Session.Keeps.countSuccess _ fun _ _ => rfl).bind fun _ => .note now x _ _ _

theorem recordFailure_keeps_stamps (e : EngineError) :
    (recordFailure now x e).Keeps (List.map SpiderRow.stamp) :=
  (Session.Keeps.setStatus _ _ fun _ _ => rfl).bind fun _ =>
    (Session.Keeps.countError _ fun _ _ => rfl).bind fun _ => .note now x _ _ _

theorem recordOutcome_keeps_stamps (result : DirectResult) (nanos : Nat) :
    (recordOutcome now x result nanos).Keeps (List.map SpiderRow.stamp) := by
  refine (Session.Keeps.note now x _ _ _).bind fun _ => ?_
  split
  · exact .countSuccess _ fun _ _ => rfl
  · exact .countError _ fun _ _ => rfl

end Bookkeeping

theorem Run.step_same_stamps (r : Run) (m : RunMove) (h : Hub) :
    h.Same (List.map SpiderRow.stamp) (r.step s m h).2 := by
  by_cases hs : ∃ e, r.stage = .claimed e
  · obtain ⟨d, x, n, began, stage⟩ := r
    obtain ⟨e, rfl⟩ := hs
    refine Hub.same_work (.session ?_) (h.readClock s).2
    cases e with
    | exited o => exact Bookkeeping.reconcile_keeps_stamps _ _ _ _
    | stopped => exact .pure _
    | failed e => exact Bookkeeping.recordFailure_keeps_stamps _ _ _
  · exact step_same m fun e he => hs ⟨e, he⟩

theorem DirectCall.step_same_stamps {c : DirectCall} (m : DirectMove)
    (hc : c.stage ≠ .admitting) : h.Same (List.map SpiderRow.stamp) (c.step s m h).2 := by
  by_cases hs : ∃ d o, c.stage = .recording d o
  · obtain ⟨spider, code, x, began, stage⟩ := c
    obtain ⟨d, o, rfl⟩ := hs
    exact Hub.same_work (.session (Bookkeeping.recordOutcome_keeps_stamps _ _ _ _))
      (h.readClock s).2
  · exact step_same m hc fun d o he => hs ⟨d, o, he⟩

-- ### Steps that may write one

def SpiderRow.StampedAt (r : SpiderRow) (t : Time.Instant) : Prop :=
  r.lastRun = some (String.ofList t.rfc3339)

-- Every row keeps the time that it has, or takes over one that has been read since.
structure Hub.Restamped (s : Setup) (h k : Hub) : Prop where
  readings : h.readings ≤ k.readings
  rows : ∀ r ∈ k.rows, (∃ r' ∈ h.rows, r'.stamp = r.stamp) ∨
    ∃ n, h.readings ≤ n ∧ n < k.readings ∧ r.StampedAt (s.clock n)

namespace Hub.Restamped

theorem of_same (hr : h.readings ≤ k.readings) (hs : h.Same (List.map SpiderRow.stamp) k) :
    h.Restamped s k where
  readings := hr
  rows r hr := by
    have hm : r.stamp ∈ k.rows.map SpiderRow.stamp := List.mem_map_of_mem hr
    rw [show k.rows.map SpiderRow.stamp = h.rows.map SpiderRow.stamp from hs.rows] at hm
    exact .inl (List.mem_map.mp hm)

end Hub.Restamped

-- A write whose rows keep their times, or take over the one time `now`.
def Write.StampsAt (now : Time.Instant) (w : Write) : Prop :=
  ∀ t : Store, ∀ r ∈ (w.make t).spiders,
    (∃ r' ∈ t.spiders, r'.stamp = r.stamp) ∨ r.StampedAt now

theorem Write.stampsAt_ofRow {now : Time.Instant} {q : Request} {a : Int}
    {f : SpiderRow → SpiderRow} {hf : ∀ r, (f r).id = r.id}
    (h : ∀ r, (f r).lastRun = r.lastRun ∨ (f r).StampedAt now) :
    (Write.ofRow q a f hf).StampsAt now := by
  intro t r hr
  obtain ⟨r', hr', rfl⟩ := List.mem_map.mp hr
  split
  · exact (h r').imp (fun hl => ⟨r', hr', by rw [SpiderRow.stamp, SpiderRow.stamp, hf, hl]⟩) id
  · exact .inl ⟨r', hr', rfl⟩

theorem Write.stampsAt_appendLog (now later : Time.Instant) (n : NewLog) :
    (Write.appendLog later n).StampsAt now := fun _ r hr => .inl ⟨r, hr, rfl⟩

theorem Store.stamps_after {now : Time.Instant} {ws : List Write} (t : Store)
    (h : ∀ w ∈ ws, w.StampsAt now) : ∀ r ∈ (t.after ws).spiders,
      (∃ r' ∈ t.spiders, r'.stamp = r.stamp) ∨ r.StampedAt now := by
  induction ws generalizing t with
  | nil => exact fun r hr => .inl ⟨r, hr, rfl⟩
  | cons w rest ih =>
      intro r hr
      rcases ih (w.make t) (fun v hv => h v (List.mem_cons_of_mem _ hv)) r hr with
        ⟨r', hr', hs⟩ | hs
      · rcases h w List.mem_cons_self t r' hr' with ⟨r'', hr'', hs'⟩ | hs'
        · exact .inl ⟨r'', hr'', hs'.trans hs⟩
        · exact .inr ((congrArg Prod.snd hs).symm.trans hs')
      · exact .inr hs

-- An entry, broken off or not, that stamps the rows with a time read in this step.
theorem Hub.restamped_writes {ws : List Write} {n m : Nat} {t : SharedStore}
    (ht : t.store = h.store.after (ws.take m)) (hws : ∀ w ∈ ws, w.StampsAt (s.clock n))
    (hn : h.readings ≤ n) (hk : n < k.readings) : h.Restamped s (k.setShared t) where
  readings := Nat.le_trans hn (Nat.le_of_lt hk)
  rows r hr := by
    rw [show (k.setShared t).rows = t.store.spiders from rfl, ht] at hr
    rcases h.store.stamps_after (fun w hw => hws w (List.mem_of_mem_take hw)) r hr with hs | hs
    · exact .inl hs
    · exact .inr ⟨n, hn, hk, hs⟩

theorem Bookkeeping.stampsAt_runStarted (now : Time.Instant) (x : Subject) :
    ∀ w ∈ runStarted now x, w.StampsAt now := by
  intro w hw
  simp only [runStarted, List.mem_cons, List.not_mem_nil, or_false] at hw
  rcases hw with rfl | rfl | rfl
  · exact Write.stampsAt_ofRow fun _ => .inl rfl
  · exact Write.stampsAt_ofRow fun _ => .inr rfl
  · exact Write.stampsAt_appendLog _ _ _

theorem Bookkeeping.stampsAt_callStarted (now later : Time.Instant) (x : Subject) :
    ∀ w ∈ callStarted now later x, w.StampsAt later := by
  intro w hw
  simp only [callStarted, List.mem_cons, List.not_mem_nil, or_false] at hw
  rcases hw with rfl | rfl
  · exact Write.stampsAt_appendLog _ _ _
  · exact Write.stampsAt_ofRow fun _ => .inr rfl

-- Once it is complete, it has stamped the rows of its spider.
theorem Store.stampedAt_change {now : Time.Instant} {a : Int} {f : SpiderRow → SpiderRow}
    (hf : ∀ r, (f r).StampedAt now) (t : Store) :
    ∀ r ∈ (t.change a f).spiders, r.id = a → r.StampedAt now := by
  intro r hr ha
  obtain ⟨r', -, rfl⟩ := List.mem_map.mp hr
  by_cases hr' : r'.id = a
  · rw [if_pos hr']
    exact hf r'
  · rw [if_neg hr'] at ha
    exact absurd ha hr'

-- ### Steps of starts and of calls

theorem StartCall.step_restamped (c : StartCall) (h : Hub) : h.Restamped s (c.step s h).2.2 := by
  by_cases hs : ∃ d x n, c.stage = .marking d x n
  · obtain ⟨d, x, n, hc⟩ := hs
    cases hp : h.site.shared.poisoned with
    | true =>
        rw [StartCall.step_marking_poisoned hc hp]
        exact .of_same (Nat.le_succ _) (.refl h)
    | false =>
        rw [StartCall.step_marking_eq hc hp]
        obtain ⟨r, t, m, hr, ht, -⟩ := h.site.shared.run_writes_prefix d.id
          (Bookkeeping.runStarted (s.clock h.readings) ⟨d.id, d.name, x⟩)
        have hleft := Hub.restamped_writes (s := s) (k := (h.readClock s).2) ht
          (Bookkeeping.stampsAt_runStarted (s.clock h.readings) ⟨d.id, d.name, x⟩)
          (Nat.le_refl h.readings) (Nat.lt_succ_self _)
        rw [hr]
        rcases r with _ | _ <;> exact hleft
  · exact .of_same (c.readings_le h) (step_same fun d x n hc => hs ⟨d, x, n, hc⟩)

theorem StartCall.stage_of_run {c : StartCall} {r : Run} (hr : (c.step s h).2.1 = some r) :
    ∃ d x n, c.stage = .marking d x n := by
  obtain ⟨spider, stage⟩ := c
  cases stage with
  | marking d x n => exact ⟨d, x, n, rfl⟩
  | _ => cases hr

-- A run that comes into being has stamped its spider with the time at which it began.
theorem StartCall.step_stamped {c : StartCall} {r : Run} (hr : (c.step s h).2.1 = some r) :
    r.began = s.clock h.readings ∧ h.readings < (c.step s h).2.2.readings ∧
      ∀ row ∈ (c.step s h).2.2.rows, row.id = r.spider.id → row.StampedAt r.began := by
  obtain ⟨d, x, n, hc⟩ := StartCall.stage_of_run hr
  cases hp : h.site.shared.poisoned with
  | true =>
      rw [StartCall.step_marking_poisoned hc hp] at hr
      cases hr
  | false =>
      obtain ⟨r', t, m, hrun, ht, hall⟩ := h.site.shared.run_writes_prefix d.id
        (Bookkeeping.runStarted (s.clock h.readings) ⟨d.id, d.name, x⟩)
      rw [StartCall.step_marking_eq hc hp, hrun] at hr ⊢
      cases r' with
      | error e => cases hr
      | ok u =>
          cases hr
          refine ⟨rfl, Nat.lt_succ_self _, ?_⟩
          rw [hall rfl] at ht
          intro row hrow
          rw [show Hub.rows _ = t.store.spiders from rfl, ht,
            Bookkeeping.after_runStarted] at hrow
          exact Store.stampedAt_change (f := startEntry _) (fun _ => rfl) _ row hrow

theorem DirectCall.step_restamped (c : DirectCall) (m : DirectMove) (h : Hub) :
    h.Restamped s (c.step s m h).2 := by
  by_cases hc : c.stage = .admitting
  · rcases DirectCall.step_admitting (s := s) (h := h) m hc with
      ⟨e, asked, hstep⟩ | ⟨y, -, -, -, hstep⟩
    · rw [hstep]
      exact .of_same (Nat.le_add_right _ 2) ⟨rfl, rfl, rfl⟩
    · obtain ⟨r, t, n, hr, ht, -⟩ := SharedStore.run_writes_prefix
        { h.site.shared with asked := h.site.shared.asked + 2 } c.spider
        (Bookkeeping.callStarted (s.clock h.readings) (s.clock (h.readings + 1))
          ⟨c.spider, y.name, c.execution⟩)
      have hleft := Hub.restamped_writes (s := s) (k := ((h.readClock s).2.readClock s).2) ht
        (Bookkeeping.stampsAt_callStarted _ _ _) (Nat.le_succ h.readings) (Nat.lt_succ_self _)
      rw [hstep, hr]
      rcases r with _ | _ <;> exact hleft
  · exact .of_same (c.readings_le m h) (step_same_stamps m hc)

-- A call that is let in has been checked at the one time, and has stamped its spider with the time
-- after it.
theorem DirectCall.step_stamped {c : DirectCall} {m : DirectMove} {d : Definition}
    (hc : c.stage = .admitting) (hd : (c.step s m h).1.stage = .preparing d) :
    (c.step s m h).2.readings = h.readings + 2 ∧
      (∃ y, h.store.spider? c.spider = .ok (some y) ∧
        RateLimit.check y.lastRun
          (RateLimit.intervalOf (h.store.setting? RateLimit.settingKey) s.minutes)
          (s.clock h.readings) = .allow) ∧
      ∀ row ∈ (c.step s m h).2.rows, row.id = c.spider →
        row.StampedAt (s.clock (h.readings + 1)) := by
  rcases DirectCall.step_admitting (s := s) (h := h) m hc with
    ⟨e, asked, hstep⟩ | ⟨y, -, hy, hcheck, hstep⟩
  · rw [hstep] at hd
    cases hd
  · obtain ⟨r, t, n, hr, ht, hall⟩ := SharedStore.run_writes_prefix
      { h.site.shared with asked := h.site.shared.asked + 2 } c.spider
      (Bookkeeping.callStarted (s.clock h.readings) (s.clock (h.readings + 1))
        ⟨c.spider, y.name, c.execution⟩)
    rw [hstep, hr] at hd ⊢
    cases r with
    | error e => cases hd
    | ok u =>
        refine ⟨rfl, ⟨y, hy, hcheck⟩, ?_⟩
        rw [hall rfl] at ht
        intro row hrow
        rw [show Hub.rows _ = t.store.spiders from rfl, ht, Bookkeeping.after_callStarted] at hrow
        exact Store.stampedAt_change (f := callEntry _) (fun _ => rfl) _ row hrow

end Spiderworks
