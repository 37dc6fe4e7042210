import Spiderworks.Proofs.Engine.Entries
import Spiderworks.Proofs.Store.Writes

namespace Spiderworks

variable {α β : Type} {s : Setup} {h : Hub}

def Hub.store (h : Hub) : Store := h.site.shared.store

def Hub.setShared (h : Hub) (t : SharedStore) : Hub :=
  { h with site := { h.site with shared := t } }

theorem Hub.work_bind (h : Hub) (w : Work α) (f : α → Work β) :
    h.work (w >>= f) = match h.work w with
      | (.ok a, k) => k.work (f a)
      | (.error e, k) => (.error e, k) := by
  simp only [Hub.work, Site.run_bind]
  rcases h.site.run w with ⟨_ | _, t⟩ <;> rfl

theorem Hub.work_session_poisoned (hp : h.site.shared.poisoned = true) (p : Session α) :
    h.work (Work.session p) = (.error (.storage .poisoned), h) := by
  rw [Hub.work, Site.run_session_poisoned hp]

theorem Hub.work_session_eq (hp : h.site.shared.poisoned = false) (p : Session α) :
    h.work (Work.session p) = match h.site.shared.run p with
      | (.ok a, t) => (.ok a, h.setShared t)
      | (.error e, t) => (.error (.storage e), h.setShared t) := by
  rw [Hub.work, Site.run_session_held hp]
  rcases h.site.shared.run p with ⟨_ | _, t⟩ <;> rfl

-- ### What the entries make of a store

-- A call that is let in counts a run of its spider.
def callEntry (now : Time.Instant) (r : SpiderRow) : SpiderRow :=
  { r with runs := bump r.runs, lastRun := some (String.ofList now.rfc3339) }

-- A call that is over counts as a success or as an error.
def outcomeEntry (success : Bool) (r : SpiderRow) : SpiderRow :=
  if success then { r with successes := bump r.successes } else { r with errors := bump r.errors }

namespace Bookkeeping

variable (now later : Time.Instant) (x : Subject) (t : Store)

theorem after_runStarted_two :
    t.after ((runStarted now x).take 2) = t.change x.spider (startEntry now) :=
  Store.change_change (f := fun r => { r with status := Status.running.name }) (fun _ => rfl) t
    x.spider

theorem after_runStarted : t.after (runStarted now x) =
    (t.change x.spider (startEntry now)).logged now (line x .info .spiderRunner
      ("Spider " ++ quoted x.name ++ " started with execution ID: " ++ x.execution)) :=
  congrArg (Store.logged now _) (after_runStarted_two now x t)

theorem after_callStarted : t.after (callStarted now later x) =
    (t.logged now (line x .info .apiCall
      ("Direct call started for spider " ++ quoted x.name))).change x.spider (callEntry later) :=
  rfl

theorem after_callEnded (r : DirectResult) (nanos : Nat) : t.after (callEnded now x r nanos) =
    (t.logged now (line x (if r.success then .info else .error) .apiCall
      (outcomeMessage r nanos))).change x.spider (outcomeEntry r.success) := by
  rw [callEnded]
  cases r.success <;> rfl

end Bookkeeping

-- ### Starts

theorem StartCall.step_marking_poisoned {c : StartCall} {d : Definition} {x : String} {n : Nat}
    (hc : c.stage = .marking d x n) (hp : h.site.shared.poisoned = true) :
    c.step s h = ({ c with stage := .withdrawing x (.storage .poisoned) }, none,
      (h.readClock s).2) := by
  have hwork := Hub.work_session_poisoned (h := (h.readClock s).2) hp
    (Bookkeeping.markStarted (h.readClock s).1 ⟨d.id, d.name, x⟩)
  simp only [step, nextStage, hc, stepMarking, hwork]

theorem StartCall.step_marking_eq {c : StartCall} {d : Definition} {x : String} {n : Nat}
    (hc : c.stage = .marking d x n) (hp : h.site.shared.poisoned = false) : c.step s h =
      match h.site.shared.run (Session.writes d.id
        (Bookkeeping.runStarted (s.clock h.readings) ⟨d.id, d.name, x⟩)) with
      | (.ok _, t) => ({ c with stage := .done (.ok x) },
          some (newRun d x n (s.clock h.readings)), (h.readClock s).2.setShared t)
      | (.error e, t) =>
          ({ c with stage := .withdrawing x (.storage e) }, none,
            (h.readClock s).2.setShared t) := by
  have hwork := Hub.work_session_eq (h := (h.readClock s).2) hp
    (Bookkeeping.markStarted (h.readClock s).1 ⟨d.id, d.name, x⟩)
  rw [Bookkeeping.markStarted_eq] at hwork
  simp only [step, nextStage, hc, stepMarking, Bookkeeping.markStarted_eq, hwork]
  rw [show (h.readClock s).2.site.shared = h.site.shared from rfl,
    show (h.readClock s).1 = s.clock h.readings from rfl]
  rcases h.site.shared.run _ with ⟨_ | _, t⟩ <;> rfl

-- A run is entered when its spider is there.
theorem StartCall.step_entered {c : StartCall} {d : Definition} {x : String} {n : Nat}
    (hc : c.stage = .marking d x n) (hs : h.site.shared.Willing) (hid : h.has d.id = true) :
    c.step s h = ({ c with stage := .done (.ok x) }, some (newRun d x n (s.clock h.readings)),
      (h.readClock s).2.setShared { h.site.shared with
        asked := h.site.shared.asked + 3
        store := h.store.after
          (Bookkeeping.runStarted (s.clock h.readings) ⟨d.id, d.name, x⟩) }) := by
  rw [StartCall.step_marking_eq hc hs.poisoned, SharedStore.run_writes hid (hs.grants _)]
  rfl

theorem StartCall.step_unknown {c : StartCall} {d : Definition} {x : String} {n : Nat}
    (hc : c.stage = .marking d x n) (hs : h.site.shared.Willing) (hid : h.has d.id = false) :
    ∃ e, c.step s h = ({ c with stage := .withdrawing x (.storage e) }, none,
      (h.readClock s).2.setShared { h.site.shared with asked := h.site.shared.asked + 1 }) := by
  have hws : Bookkeeping.runStarted (s.clock h.readings) ⟨d.id, d.name, x⟩ ≠ [] :=
    List.cons_ne_nil _ _
  obtain ⟨e, he⟩ := SharedStore.run_writes_absent hid hws
  rw [StartCall.step_marking_eq hc hs.poisoned, he]
  exact ⟨e, rfl⟩

-- ### Direct calls

theorem DirectCall.step_admitting_eq {c : DirectCall} (m : DirectMove) (hc : c.stage = .admitting) :
    c.step s m h =
      match ((h.readClock s).2.readClock s).2.work (Work.session (Bookkeeping.letIn
        (s.clock h.readings) (s.clock (h.readings + 1)) s.minutes c.spider c.execution)) with
      | (.ok (.ok d), k) => ({ c with stage := .preparing d }, k)
      | (.ok (.error e), k) => ({ c with stage := .done (.error e) }, k)
      | (.error e, k) => ({ c with stage := .done (.error e) }, k) := by
  obtain ⟨spider, code, x, began, stage⟩ := c
  subst hc
  simp only [step, nextStage, stepAdmitting]
  rw [show (h.readClock s).1 = s.clock h.readings from rfl,
    show ((h.readClock s).2.readClock s).1 = s.clock (h.readings + 1) from rfl]
  rcases Hub.work _ _ with ⟨_ | _ | _, k⟩ <;> rfl

-- A call that is not let in leaves the store alone.
theorem DirectCall.step_admitting {c : DirectCall} (m : DirectMove) (hc : c.stage = .admitting) :
    (∃ e asked, c.step s m h = ({ c with stage := .done (.error e) },
      ((h.readClock s).2.readClock s).2.setShared { h.site.shared with asked := asked })) ∨
    ∃ y, h.site.shared.poisoned = false ∧ h.store.spider? c.spider = .ok (some y) ∧
      RateLimit.check y.lastRun
        (RateLimit.intervalOf (h.store.setting? RateLimit.settingKey) s.minutes)
        (s.clock h.readings) = .allow ∧
      c.step s m h = match SharedStore.run { h.site.shared with asked := h.site.shared.asked + 2 }
          (Session.writes c.spider (Bookkeeping.callStarted (s.clock h.readings)
            (s.clock (h.readings + 1)) ⟨c.spider, y.name, c.execution⟩)) with
        | (.ok _, t) => ({ c with stage := .preparing y.definition },
            ((h.readClock s).2.readClock s).2.setShared t)
        | (.error e, t) => ({ c with stage := .done (.error (.storage e)) },
            ((h.readClock s).2.readClock s).2.setShared t) := by
  rw [DirectCall.step_admitting_eq m hc]
  let k := ((h.readClock s).2.readClock s).2
  let entry := Bookkeeping.letIn (s.clock h.readings) (s.clock (h.readings + 1)) s.minutes
    c.spider c.execution
  cases hp : h.site.shared.poisoned with
  | true =>
      refine .inl ⟨.storage .poisoned, h.site.shared.asked, ?_⟩
      rw [Hub.work_session_poisoned (h := k) hp]
      rfl
  | false =>
      have hwork := Hub.work_session_eq (h := k) hp entry
      rcases Bookkeeping.letIn_cases (s.clock h.readings) (s.clock (h.readings + 1)) s.minutes
        c.spider c.execution h.site.shared with ⟨r, asked, hrun, hr⟩ | ⟨y, hy, hcheck, hrun⟩
      · rw [show k.site.shared.run entry = _ from hrun] at hwork
        rw [hwork]
        rcases r with e | e | d
        · exact .inl ⟨_, _, rfl⟩
        · exact .inl ⟨_, _, rfl⟩
        · exact absurd rfl (hr d)
      · refine .inr ⟨y, rfl, hy, hcheck, ?_⟩
        rw [hwork, show k.site.shared.run entry = _ from hrun]
        rcases SharedStore.run _ (Session.writes c.spider _) with ⟨_ | _, t⟩ <;> rfl

section Willing

variable {c : DirectCall} {y : Spider} (m : DirectMove)

-- The spider has rested long enough.
theorem DirectCall.step_let_in (hc : c.stage = .admitting) (hs : h.site.shared.Willing)
    (hy : h.store.spider? c.spider = .ok (some y))
    (hcheck : RateLimit.check y.lastRun
      (RateLimit.intervalOf (h.store.setting? RateLimit.settingKey) s.minutes)
      (s.clock h.readings) = .allow) :
    c.step s m h = ({ c with stage := .preparing y.definition },
      ((h.readClock s).2.readClock s).2.setShared { h.site.shared with
        asked := h.site.shared.asked + 4
        store := h.store.after (Bookkeeping.callStarted (s.clock h.readings)
          (s.clock (h.readings + 1)) ⟨c.spider, y.name, c.execution⟩) }) := by
  have hrun := Bookkeeping.letIn_found (s.clock h.readings) (s.clock (h.readings + 1)) s.minutes
    c.execution hy (hs.refusal _ _) (hs.refusal _ _)
  rw [Hub.store] at hcheck
  rw [hcheck] at hrun
  let asked := { h.site.shared with asked := h.site.shared.asked + 2 }
  let written := Bookkeeping.callStarted (s.clock h.readings) (s.clock (h.readings + 1))
    ⟨c.spider, y.name, c.execution⟩
  have hwritten : asked.run (Session.writes c.spider written) = _ :=
    SharedStore.run_writes (Store.spider?_eq_some hy).2 fun _ _ _ => hs.refusal _ _
  dsimp only at hrun
  rw [show SharedStore.run _ (Session.writes c.spider _) = _ from hwritten] at hrun
  have hwork := Hub.work_session (h := ((h.readClock s).2.readClock s).2) hs hrun
  rw [DirectCall.step_admitting_eq m hc, hwork]
  rfl

-- What is known of a call that is over is recorded.
theorem DirectCall.step_recording_eq {d : Definition} {o : DirectOutcome}
    (hc : c.stage = .recording d o) (hs : h.site.shared.Willing) (hid : h.has d.id = true) :
    ∃ r nanos, r = { resultOf s d c.execution o with seconds := seconds nanos } ∧
      c.step s m h = ({ c with stage := .done (.ok r) }, (h.readClock s).2.setShared
        { h.site.shared with
          asked := h.site.shared.asked + 2
          store := h.store.after (Bookkeeping.callEnded (s.clock h.readings)
            ⟨d.id, d.name, c.execution⟩ r nanos) }) := by
  let nanos := ((s.clock h.readings).since c.began).toNat
  let r := { resultOf s d c.execution o with seconds := seconds nanos }
  refine ⟨r, nanos, rfl, ?_⟩
  have hrun := SharedStore.run_writes (s := h.site.shared) hid
    (hs.grants (Bookkeeping.callEnded (s.clock h.readings) ⟨d.id, d.name, c.execution⟩ r nanos))
  have hwork := Hub.work_session (h := (h.readClock s).2) hs hrun
  obtain ⟨spider, code, x, began, stage⟩ := c
  subst hc
  simp only [step, nextStage, stepRecording, Bookkeeping.recordOutcome_eq]
  exact congrArg (fun p => ((⟨spider, code, x, began, .done (.ok r)⟩ : DirectCall), p.2)) hwork

end Willing

end Spiderworks
