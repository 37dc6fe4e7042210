import Spiderworks.Proofs.Engine.Soundness

namespace Spiderworks

open History

variable {α : Type} {s : Setup} {h : Hub} {id : Int} {f : SpiderRow → SpiderRow}

def Hub.rows (h : Hub) : List SpiderRow := h.site.shared.store.spiders

def Hub.has (h : Hub) (spider : Int) : Bool := h.site.shared.store.has spider

theorem Hub.work_session {p : Session α} {a : α} {t : SharedStore}
    (hs : h.site.shared.Willing) (hr : h.site.shared.run p = (.ok a, t)) :
    h.work (Work.session p) = (.ok a, { h with site := { h.site with shared := t } }) := by
  rw [Hub.work, Site.run_session_held hs.poisoned, hr]

theorem Hub.work_writes {p : Session α} (hp : p.Writes id f) (hs : h.site.shared.Willing)
    (hid : h.has id = true) : ∃ a k, h.work (Work.session p) = (.ok a, k) ∧
      k.site.shared.Willing ∧ k.rows = Store.rewrite id f h.rows := by
  obtain ⟨a, t, hr, ht, hrows⟩ := hp h.site.shared hs hid
  exact ⟨a, _, Hub.work_session hs hr, ht, hrows⟩

-- ### Whose step makes an entry

variable {event : Event} {i j k : Nat}

theorem StartCall.stage_of_entry {c : StartCall} (he : event ∈ c.event? s i h)
    (hentry : event.isEntry = true) : ∃ d x n, c.stage = .marking d x n := by
  obtain ⟨spider, stage⟩ := c
  cases stage with
  | registering d =>
      obtain ⟨r, -, rfl⟩ := Option.map_eq_some_iff.mp he
      cases hentry
  | marking d x n => exact ⟨d, x, n, rfl⟩
  | withdrawing x e =>
      obtain ⟨r, -, rfl⟩ := Option.map_eq_some_iff.mp he
      cases hentry
  | _ => cases he

theorem Run.stage_of_entry {r : Run} (he : event ∈ r.event? j h)
    (hentry : event.isEntry = true) : ∃ e, r.stage = .claimed e := by
  obtain ⟨d, x, n, began, stage⟩ := r
  cases stage with
  | ended e =>
      simp only [event?] at he
      split at he
      · cases he
      · obtain ⟨g, -, rfl⟩ := Option.map_eq_some_iff.mp he
        cases hentry
  | claimed e => exact ⟨e, rfl⟩
  | leaving =>
      obtain ⟨g, -, rfl⟩ := Option.map_eq_some_iff.mp he
      cases hentry
  | _ => cases he

theorem StopCall.stage_of_entry {c : StopCall} {m : StopMove} (he : event ∈ c.event? k m h)
    (hentry : event.isEntry = true) : ∃ t, c.stage = .marking t := by
  obtain ⟨spider, stage⟩ := c
  cases stage with
  | asking =>
      obtain ⟨g, -, rfl⟩ := Option.map_eq_some_iff.mp he
      cases hentry
  | settling t =>
      simp only [event?] at he
      split at he
      · cases he
        cases hentry
      · cases he
  | marking t => exact ⟨t, rfl⟩
  | leaving t result =>
      obtain ⟨g, -, rfl⟩ := Option.map_eq_some_iff.mp he
      cases hentry
  | _ => cases he

-- ### The start of a run

def startEntry (now : Time.Instant) (r : SpiderRow) : SpiderRow :=
  { r with
    status := Status.running.name
    runs := bump r.runs
    lastRun := some (String.ofList now.rfc3339) }

theorem StartCall.step_marking {c : StartCall} {d : Definition} {x : String} {n : Nat}
    (hc : c.stage = .marking d x n) (hs : h.site.shared.Willing) (hid : h.has d.id = true) :
    (c.step s h).2.1.isSome = true ∧ (c.step s h).2.2.site.shared.Willing ∧
      (c.step s h).2.2.rows = Store.rewrite d.id (startEntry (s.clock h.readings)) h.rows := by
  obtain ⟨_, k, hw, hk, hrows⟩ := Hub.work_writes (h := (h.readClock s).2)
    (Bookkeeping.markStarted_writes (s.clock h.readings) ⟨d.id, d.name, x⟩) hs hid
  have hstep : c.step s h =
      ({ c with stage := .done (.ok x) }, some (newRun d x n (s.clock h.readings)), k) := by
    simp only [step, nextStage, hc, stepMarking]
    rw [show h.readClock s = (s.clock h.readings, (h.readClock s).2) from rfl, hw]
  rw [hstep]
  exact ⟨rfl, hk, hrows⟩

-- ### The final entry of a run

def RunEnd.entry : RunEnd → SpiderRow → SpiderRow
  | .exited o, r =>
      if o.code = 0 then { r with status := Status.inactive.name, successes := bump r.successes }
      else { r with status := Status.error.name, errors := bump r.errors }
  | .failed _, r => { r with status := Status.error.name, errors := bump r.errors }
  | .stopped, r => r

theorem RunEnd.entry_id (e : RunEnd) (r : SpiderRow) : (e.entry r).id = r.id := by
  cases e with
  | exited o =>
      simp only [entry]
      split <;> rfl
  | stopped => rfl
  | failed e => rfl

theorem Run.finalEntry_writes (r : Run) (now : Time.Instant) (e : RunEnd) :
    (r.finalEntry now e).Writes r.spider.id e.entry := by
  cases e with
  | exited o => exact Bookkeeping.reconcile_writes now r.subject o.code _
  | stopped => exact .pure ()
  | failed e => exact Bookkeeping.recordFailure_writes now r.subject e

theorem Run.step_claimed {r : Run} {e : RunEnd} (m : RunMove) (hr : r.stage = .claimed e)
    (hs : h.site.shared.Willing) (hid : h.has r.spider.id = true) :
    (r.step s m h).2.site.shared.Willing ∧
      (r.step s m h).2.rows = Store.rewrite r.spider.id e.entry h.rows := by
  obtain ⟨_, k, hw, hk, hrows⟩ := Hub.work_writes (h := (h.readClock s).2)
    (r.finalEntry_writes (s.clock h.readings) e) hs hid
  have hstep : (r.step s m h).2 = k := by
    simp only [step, nextStage, hr, stepClaimed]
    rw [show h.readClock s = (s.clock h.readings, (h.readClock s).2) from rfl, hw]
  rw [hstep]
  exact ⟨hk, hrows⟩

-- ### The entry of a request to stop

theorem StopCall.step_marking {c : StopCall} {t : StopTicket} (m : StopMove)
    (hc : c.stage = .marking t) (hs : h.site.shared.Willing) (hid : h.has c.spider = true)
    (readable : ∃ found, h.site.shared.store.spider? c.spider = .ok found) :
    (c.step s m h).2.site.shared.Willing ∧
      (c.step s m h).2.rows =
        Store.rewrite c.spider (fun r => { r with status := Status.stopped.name }) h.rows := by
  obtain ⟨u, hu, hwilling, hrows⟩ := Bookkeeping.markStopped_writes (s.clock h.readings)
    t.execution hs hid readable
  have hw := Hub.work_session (h := (h.readClock s).2) hs hu
  have hstep : (c.step s m h).2 =
      { (h.readClock s).2 with site := { (h.readClock s).2.site with shared := u } } := by
    simp only [step, nextStage, hc, stepMarking]
    rw [show h.readClock s = (s.clock h.readings, (h.readClock s).2) from rfl, hw]
  rw [hstep]
  exact ⟨hwilling, hrows⟩

end Spiderworks
