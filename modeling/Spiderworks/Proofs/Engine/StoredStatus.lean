import Spiderworks.Proofs.Engine.Entries
import Spiderworks.Proofs.Engine.EntryOrder
import Spiderworks.Proofs.Engine.Soundness

namespace Spiderworks

open History

-- ### Registrations

section

variable {log : List Event} {s : Setup} {e : Engine} {i n : Nat} {a : Int} {x : String}

-- The request that has to settle a run, and has not yet done so.
def StopStage.isSettling : StopStage → Bool
  | .cancelling _ | .settling _ | .marking _ | .leaving _ _ => true
  | _ => false

namespace Engine

-- No start is under way, no task is at work, and no request has a run to settle.
structure Idle (e : Engine) : Prop where
  starts : ∀ c ∈ e.starts, c.result?.isSome = true
  runs : ∀ r ∈ e.runs, r.stage = .done
  stops : ∀ c ∈ e.stops, c.stage.isSettling = false

-- ### Freed registrations

theorem Sound.freed_of_initiator {k : Nat} {t : StopTicket} (hs : e.Sound s log)
    (stops : ∀ c ∈ e.stops, c.stage.isSettling = false) (hg : .granted k a t ∈ log)
    (ht : t.initiator = true) : Freed log t.execution := by
  have hk : k < e.stops.length := hs.parties _ hg
  have hget := List.getElem?_eq_getElem hk
  have hc := hs.stops k _ hget
  have hsettling := stops _ (List.mem_of_getElem? hget)
  generalize e.stops[k] = c at hc hsettling
  obtain ⟨spider, stage⟩ := c
  cases stage with
  | asking => exact absurd rfl (hc _ hg)
  | following u =>
      obtain ⟨hu, hinit⟩ := hc
      rw [← hs.hub.lawful.granted_of_stop hg hu, ht] at hinit
      cases hinit
  | done r => exact hc a t hg ht
  | _ => cases hsettling

theorem Sound.freed_of_idle (hs : e.Sound s log) (hidle : e.Idle)
    (hi : .registered i a x n ∈ log) : Freed log x := by
  have hlt : i < e.starts.length := hs.parties _ hi
  have hget := List.getElem?_eq_getElem hlt
  have hc := hs.starts i _ hget
  have hdone := hidle.starts _ (List.mem_of_getElem? hget)
  generalize e.starts[i] = c at hc hdone
  obtain ⟨spider, stage⟩ := c
  cases stage with
  | done r =>
      rcases hc a x n hi with hb | ⟨-, hf⟩
      · obtain ⟨r, hr, rfl⟩ := hs.recorded x ⟨i, a, hb⟩
        obtain ⟨j, hj⟩ := List.getElem?_of_mem hr
        have hstage := (hs.runs j r hj).stage
        simp only [Run.StageAccords, hidle.runs r hr] at hstage
        rcases hstage with hf | ⟨hg, -⟩
        · exact hf
        · obtain ⟨k, b, t, hg, ht, hx⟩ := hs.hub.lawful.exists_initiator hg
          rw [← hx]
          exact hs.freed_of_initiator hidle.stops hg ht
      · exact hf
  | _ => cases hdone

theorem Sound.live_eq_nil (hs : e.Sound s log) (hidle : e.Idle) : e.hub.registry.live = [] := by
  refine List.eq_nil_iff_forall_not_mem.mpr fun g hg => ?_
  obtain ⟨i, hi⟩ := hs.hub.reflects.registered g hg
  exact hs.hub.reflects.held g hg (hs.freed_of_idle hidle hi)

-- ### Released runs

theorem Sound.finalised_of_freed (hs : e.Sound s log) (hr : Recorded log x)
    (hf : Freed log x) : Finalised log x := by
  rcases hs.hub.lawful.finalised_of_freed hf with hf | ⟨i, a, hb⟩
  · exact hf
  · exact absurd hr (hs.hub.lawful.not_recorded_of_begun hb)

theorem Sound.freed_of_released (hs : e.Sound s log) (hi : .registered i a x n ∈ log)
    (hn : (e.hub.registry.signalsOf n).released = true) : Freed log x := by
  obtain ⟨j, b, y, hj, hf⟩ := hs.hub.reflects.justified.released n hn
  exact hs.hub.lawful.registered_of_number hj hi ▸ hf

end Engine

end

variable {log : List Event} {event : Event} {s : Setup} {e : Engine} {rows rows' : List SpiderRow}
  {i : Nat} {a : Int} {f : SpiderRow → SpiderRow}

-- ### Statuses of rows

-- What the last entry has set the status of a row to; its own one before the first entry.
def History.statusOf (log : List Event) (r : SpiderRow) : String :=
  ((writes log r.id).getLast?.map Status.name).getD r.status

theorem History.statusOf_quiet {o : Option Event} (ho : ∀ event ∈ o, event.status? = none)
    (r : SpiderRow) : statusOf (log ++ o.toList) r = statusOf log r := by
  cases o with
  | none => simp
  | some event => simp [statusOf, writes_concat, ho event rfl]

theorem History.statusOf_written {status : Status} (he : event.status? = some status)
    (r : SpiderRow) : statusOf (log ++ [event]) r =
      if r.id = event.spider then status.name else statusOf log r := by
  by_cases hr : r.id = event.spider
  · simp [statusOf, writes_concat, he, hr]
  · simp [statusOf, writes_concat, Ne.symm hr, hr]

theorem Store.rewrite_state {name : String} (hf : ∀ r, (f r).id = r.id ∧ (f r).status = name)
    (rows : List SpiderRow) : (Store.rewrite a f rows).map SpiderRow.state =
      (rows.map SpiderRow.state).map fun p => if p.1 = a then (p.1, name) else p := by
  rw [Store.rewrite, List.map_map, List.map_map]
  refine List.map_congr_left fun r _ => ?_
  by_cases hr : r.id = a
  · simp [SpiderRow.state, hr, hf]
  · simp [SpiderRow.state, hr]

theorem History.states_written {status : Status} (he : event.status? = some status)
    (hf : ∀ r, (f r).id = r.id ∧ (f r).status = status.name)
    (h : rows'.map SpiderRow.state = rows.map fun r => (r.id, statusOf log r)) :
    (Store.rewrite event.spider f rows').map SpiderRow.state =
      rows.map fun r => (r.id, statusOf (log ++ [event]) r) := by
  rw [Store.rewrite_state hf, h, List.map_map]
  refine List.map_congr_left fun r _ => ?_
  rw [Function.comp_apply, statusOf_written he]
  split <;> rfl

theorem Event.status?_eq_none (he : event.isEntry = false) : event.status? = none := by
  cases event <;> first | rfl | cases he

theorem StartCall.spider_of_registered {c : StartCall} {h : Hub} {j n : Nat} {x : String}
    (he : .registered j a x n ∈ c.event? s i h) :
    c.spider = a ∧ ∃ d, c.stage = .registering d := by
  obtain ⟨spider, stage⟩ := c
  cases stage with
  | registering d =>
      obtain ⟨r, -, hr⟩ := Option.map_eq_some_iff.mp he
      cases hr
      exact ⟨rfl, d, rfl⟩
  | withdrawing y g =>
      obtain ⟨r, -, hr⟩ := Option.map_eq_some_iff.mp he
      cases hr
  | _ => cases he

theorem StartCall.has_of_registering {c : StartCall} {h : Hub} {d : Definition}
    (hd : (c.step s h).1.stage = .registering d) : h.has d.id = true := by
  obtain ⟨spider, stage⟩ := c
  cases stage with
  | asking =>
      simp only [step, nextStage, stepAsking] at hd
      split at hd <;> cases hd
  | reading =>
      simp only [step, nextStage, stepReading] at hd
      split at hd
      · rename_i d' h' he
        cases hd
        obtain ⟨rfl, hhas⟩ := StartCall.readSpider_eq_ok (congrArg Prod.fst he)
        exact hhas
      · cases hd
  | registering d =>
      simp only [step, nextStage, stepRegistering] at hd
      split at hd <;> cases hd
  | marking d x n =>
      simp only [step, nextStage, stepMarking] at hd
      split at hd <;> cases hd
  | withdrawing x e => cases hd
  | done r => cases hd

-- ### The invariant

-- `rows` are those before the engine went to work.
structure Engine.Agrees (rows : List SpiderRow) (e : Engine) (log : List Event) : Prop where
  willing : e.hub.site.shared.Willing
  states : e.hub.rows.map SpiderRow.state = rows.map fun r => (r.id, statusOf log r)
  known : ∀ i a x n, .registered i a x n ∈ log → a ∈ rows.map (·.id)
  read : ∀ c ∈ e.starts, ∀ d, c.stage = .registering d → d.id ∈ rows.map (·.id)
  recorded : ∀ i a x, .begun i a x false ∉ log

namespace Engine.Agrees

theorem has_iff (h : e.Agrees rows log) : e.hub.has a = true ↔ a ∈ rows.map (·.id) := by
  have hids : e.hub.rows.map (·.id) = rows.map (·.id) := by
    simpa [SpiderRow.state, Function.comp_def] using congrArg (List.map Prod.fst) h.states
  rw [Hub.has, Store.has_iff, ← hids]
  rfl

-- A step that writes no status.
theorem quiet {e' : Engine} {o : Option Event} (h : e.Agrees rows log)
    (same : e.hub.Same (List.map SpiderRow.state) e'.hub)
    (ho : ∀ event ∈ o, event.isEntry = false ∧
      ∀ i a x n, event = .registered i a x n → a ∈ rows.map (·.id))
    (read : ∀ c ∈ e'.starts, ∀ d, c.stage = .registering d → d.id ∈ rows.map (·.id)) :
    e'.Agrees rows (log ++ o.toList) where
  willing := SharedStore.Same.willing same h.willing
  states := by
    rw [show e'.hub.rows.map SpiderRow.state = e.hub.rows.map SpiderRow.state from same.rows,
      h.states]
    simp only [statusOf_quiet fun event he => Event.status?_eq_none (ho event he).1]
  known i a x n hm := by
    rcases List.mem_append.mp hm with hm | hm
    · exact h.known i a x n hm
    · exact (ho _ (Option.mem_toList.mp hm)).2 i a x n rfl
  read := read
  recorded i a x hm := by
    rcases List.mem_append.mp hm with hm | hm
    · exact h.recorded i a x hm
    · cases (ho _ (Option.mem_toList.mp hm)).1

-- A step that writes one.
theorem written {e' : Engine} {status : Status} (h : e.Agrees rows log)
    (he : event.status? = some status)
    (willing : e'.hub.site.shared.Willing)
    (hrows : e'.hub.rows = Store.rewrite event.spider f e.hub.rows)
    (hf : ∀ r, (f r).id = r.id ∧ (f r).status = status.name)
    (read : ∀ c ∈ e'.starts, ∀ d, c.stage = .registering d → d.id ∈ rows.map (·.id)) :
    e'.Agrees rows (log ++ [event]) where
  willing := willing
  states := hrows ▸ states_written he hf h.states
  known i a x n hm := by
    rcases List.mem_append.mp hm with hm | hm
    · exact h.known i a x n hm
    · cases List.mem_singleton.mp hm
      cases he
  read := read
  recorded i a x hm := by
    rcases List.mem_append.mp hm with hm | hm
    · exact h.recorded i a x hm
    · cases List.mem_singleton.mp hm
      cases he

-- ### Steps

theorem moveStart (hs : e.Sound s log) (h : e.Agrees rows log) (i : Nat) :
    (e.moveStart s i).Agrees rows (log ++ (e.event? s (.start i)).toList) := by
  simp only [Engine.moveStart, Engine.event?]
  cases hi : e.starts[i]? with
  | none => simpa using h
  | some c =>
      have hc := hs.starts i c hi
      have read : ∀ c' ∈ e.starts.set i (c.step s e.hub).1, ∀ d, c'.stage = .registering d →
          d.id ∈ rows.map (·.id) := by
        intro c' hc' d hd
        rcases List.mem_or_eq_of_mem_set hc' with hc' | rfl
        · exact h.read c' hc' d hd
        · exact h.has_iff.mp (StartCall.has_of_registering hd)
      simp only [Option.bind_some]
      by_cases hmarking : ∃ d x n, c.stage = .marking d x n
      · obtain ⟨d, x, n, hm⟩ := hmarking
        simp only [StartCall.Accords, hm] at hc
        obtain ⟨hrun, hw, hrows⟩ := StartCall.step_marking (s := s) hm h.willing
          (h.has_iff.mpr (hc.1 ▸ h.known _ _ _ _ hc.2.1))
        simp only [StartCall.event?, hm, hrun]
        exact h.written rfl hw hrows (fun r => ⟨rfl, rfl⟩) read
      · refine h.quiet (StartCall.step_same fun d x n hm => hmarking ⟨d, x, n, hm⟩) ?_ read
        intro event he
        have hquiet : event.isEntry = false :=
          Bool.eq_false_iff.mpr fun hentry => hmarking (StartCall.stage_of_entry he hentry)
        refine ⟨hquiet, ?_⟩
        rintro j a x n rfl
        obtain ⟨rfl, d, hd⟩ := StartCall.spider_of_registered he
        simp only [StartCall.Accords, hd] at hc
        exact hc.1 ▸ h.read c (List.mem_of_getElem? hi) d hd

theorem moveRun (hs : e.Sound s log) (h : e.Agrees rows log) (j : Nat) (m : RunMove) :
    (e.moveRun s j m).Agrees rows (log ++ (e.event? s (.run j m)).toList) := by
  simp only [Engine.moveRun, Engine.event?]
  cases hj : e.runs[j]? with
  | none => simpa using h
  | some r =>
      have hr := hs.runs j r hj
      simp only [Option.bind_some]
      by_cases hclaimed : ∃ f, r.stage = .claimed f
      · obtain ⟨f, hf⟩ := hclaimed
        obtain ⟨i, hi, -⟩ := hr.begun
        obtain ⟨hw, hrows⟩ := Run.step_claimed (s := s) m hf h.willing
          (h.has_iff.mpr (h.known _ _ _ _ hi))
        have hstage := hr.stage
        simp only [Run.StageAccords, hf] at hstage
        simp only [Run.event?, hf]
        cases f with
        | exited o =>
            refine h.written rfl hw hrows (fun row => ⟨RunEnd.entry_id _ _, ?_⟩) h.read
            simp only [RunEnd.entry, Status.ofExitCode]
            split <;> rfl
        | stopped => cases hstage.2.1
        | failed g => exact h.written rfl hw hrows (fun row => ⟨rfl, rfl⟩) h.read
      · refine h.quiet (Run.step_same m fun f hf => hclaimed ⟨f, hf⟩) ?_ h.read
        intro event he
        have hquiet : event.isEntry = false :=
          Bool.eq_false_iff.mpr fun hentry => hclaimed (Run.stage_of_entry he hentry)
        refine ⟨hquiet, ?_⟩
        rintro i a x n rfl
        cases Run.event?_party he

theorem moveStop (hs : e.Sound s log) (h : e.Agrees rows log) (k : Nat) (m : StopMove)
    (readable : ∀ a, ∃ found, e.hub.site.shared.store.spider? a = .ok found) :
    (e.moveStop s k m).Agrees rows (log ++ (e.event? s (.stop k m)).toList) := by
  simp only [Engine.moveStop, Engine.event?]
  cases hk : e.stops[k]? with
  | none => simpa using h
  | some c =>
      have hc := hs.stops k c hk
      simp only [Option.bind_some]
      by_cases hmarking : ∃ t, c.stage = .marking t
      · obtain ⟨t, ht⟩ := hmarking
        simp only [StopCall.Accords, ht] at hc
        obtain ⟨i, hi⟩ := hs.hub.lawful.registered_of_granted hc.1
        obtain ⟨hw, hrows⟩ := StopCall.step_marking (s := s) m ht h.willing
          (h.has_iff.mpr (h.known _ _ _ _ hi)) (readable _)
        simp only [StopCall.event?, ht]
        exact h.written rfl hw hrows (fun r => ⟨rfl, rfl⟩) h.read
      · refine h.quiet (StopCall.step_same m fun t ht => hmarking ⟨t, ht⟩) ?_ h.read
        intro event he
        have hquiet : event.isEntry = false :=
          Bool.eq_false_iff.mpr fun hentry => hmarking (StopCall.stage_of_entry he hentry)
        refine ⟨hquiet, ?_⟩
        rintro i a x n rfl
        cases StopCall.event?_party he

theorem moveCall (h : e.Agrees rows log) (i : Nat) (m : DirectMove) :
    (e.moveCall s i m).Agrees rows log := by
  simp only [Engine.moveCall]
  cases hi : e.calls[i]? with
  | none => exact h
  | some c =>
      rw [← List.append_nil log]
      exact h.quiet (o := none) (DirectCall.step_spares c m e.hub).same (by simp) h.read

theorem act (hs : e.Sound s log) (h : e.Agrees rows log)
    (readable : ∀ a, ∃ found, e.hub.site.shared.store.spider? a = .ok found) (action : Action) :
    (e.act s action).Agrees rows (log ++ (e.event? s action).toList) := by
  cases action with
  | askStart spider =>
      rw [show e.event? s (.askStart spider) = none from rfl]
      refine h.quiet (Hub.Same.refl _) (by simp) fun c hc d hd => ?_
      rcases List.mem_append.mp hc with hc | hc
      · exact h.read c hc d hd
      · cases List.mem_singleton.mp hc
        cases hd
  | askStop spider => exact h.quiet (o := none) (Hub.Same.refl _) (by simp) h.read
  | askCall spider code => exact h.quiet (o := none) (Hub.Same.refl _) (by simp) h.read
  | askWait spider => exact h.quiet (o := none) (Hub.Same.refl _) (by simp) h.read
  | start i => exact h.moveStart hs i
  | run j m => exact h.moveRun hs j m
  | stop k m => exact h.moveStop hs k m readable
  | call i m => simpa [Engine.event?, Engine.act] using h.moveCall i m
  | wait i => exact h.quiet (o := none) (Hub.Same.refl _) (by simp) h.read

end Engine.Agrees

-- ### After every interleaving

theorem History.Smooth.running_iff {r : Registry} (hs : Smooth log) (hl : Lawful log)
    (hr : r.Reflects log) : Running log a ↔
      ∃ g ∈ r.live, g.spider = a ∧ Recorded log g.execution ∧ ¬Finalised log g.execution := by
  constructor
  · rintro ⟨i, x, n, hi, hx, hf⟩
    rcases hr.live_or_freed i a x n hi with ⟨g, hg, hga, rfl, -⟩ | hfree
    · exact ⟨g, hg, hga, hx, hf⟩
    · exact absurd (hs.finalised_of_freed hl hfree) hf
  · rintro ⟨g, hg, rfl, hx, hf⟩
    obtain ⟨i, hi⟩ := hr.registered g hg
    exact ⟨i, g.execution, g.number, hi, hx, hf⟩

theorem Status.name_injective {a b : Status} (h : a.name = b.name) : a = b :=
  Option.some.inj ((ofName?_name a).symm.trans (h ▸ ofName?_name b))

-- The status that is written last is `running` just when the spider is at work.
theorem History.Smooth.statusOf_eq_running (hs : Smooth log) (hl : Lawful log) {row : SpiderRow}
    (rest : row.status ≠ Status.running.name) :
    statusOf log row = Status.running.name ↔ Running log row.id := by
  rw [(hs.writes_alternate hl row.id).last, statusOf]
  cases (writes log row.id).getLast? with
  | none => simpa using rest
  | some status =>
      simp only [Option.map_some, Option.getD_some, Option.some.injEq]
      exact ⟨Status.name_injective, fun h => h ▸ rfl⟩

theorem Engine.agrees (fresh : Function.Injective s.names) (site : Site) (actions : List Action)
    (willing : site.shared.Willing)
    (readable : ∀ before after, actions = before ++ after → ∀ a, ∃ found,
      ((ofSite site).perform s before).hub.site.shared.store.spider? a = .ok found) :
    ((ofSite site).perform s actions).Agrees site.shared.store.spiders
      ((ofSite site).history s actions) := by
  induction actions using List.reverseRecOn with
  | nil =>
      refine ⟨willing, ?_, ?_, ?_, ?_⟩
      · simp [statusOf, writes, history, Hub.rows, ofSite, Hub.ofSite, SpiderRow.state]
      all_goals simp [history, ofSite]
  | append_singleton actions action ih =>
      rw [perform_append, history_concat]
      refine (ih fun before after h => readable before (after ++ [action]) ?_).act
        (Engine.sound fresh site actions) (readable actions [action] rfl) action
      rw [h, List.append_assoc]

-- `alternate`: the statuses that the entries of a spider write are `running`, another one,
-- `running`, another one, and so on. `states`: the last of them is the one that is stored.
structure Engine.StatusAgrees (s : Setup) (e : Engine) (actions : List Action) : Prop where
  running_iff : ∀ row ∈ (e.perform s actions).hub.rows, row.status = Status.running.name ↔
    ∃ g ∈ (e.perform s actions).hub.registry.live, g.spider = row.id ∧
      Recorded (e.history s actions) g.execution ∧ ¬Finalised (e.history s actions) g.execution
  alternate : ∀ a n status, (writes (e.history s actions) a)[n]? = some status →
    (status = .running ↔ n % 2 = 0)
  states : (e.perform s actions).hub.rows.map SpiderRow.state =
    e.hub.rows.map fun r => (r.id, statusOf (e.history s actions) r)
  unregistered : ∀ row ∈ (e.perform s actions).hub.rows,
    (e.perform s actions).hub.registry.contains row.id = false → row.status ≠ Status.running.name
  idle : (e.perform s actions).Idle →
    ∀ row ∈ (e.perform s actions).hub.rows, row.status ≠ Status.running.name

theorem Engine.status_agrees (fresh : Function.Injective s.names) (site : Site)
    (actions : List Action) (willing : site.shared.Willing)
    (rest : ∀ row ∈ site.shared.store.spiders, row.status ≠ Status.running.name)
    (readable : ∀ before after, actions = before ++ after → ∀ a, ∃ found,
      ((ofSite site).perform s before).hub.site.shared.store.spider? a = .ok found)
    (patient : ∀ k a t, .expired k a t ∉ (ofSite site).history s actions) :
    (ofSite site).StatusAgrees s actions := by
  have hs := Engine.sound fresh site actions
  have hl := hs.hub.lawful
  have hagrees := Engine.agrees fresh site actions willing readable
  have hsmooth : Smooth ((ofSite site).history s actions) := ⟨hagrees.recorded, patient⟩
  have running (row : SpiderRow) (hrow : row ∈ ((ofSite site).perform s actions).hub.rows) :
      row.status = Status.running.name ↔ Running ((ofSite site).history s actions) row.id := by
    have hstate := List.mem_map_of_mem (f := SpiderRow.state) hrow
    rw [hagrees.states] at hstate
    obtain ⟨first, hfirst, heq⟩ := List.mem_map.mp hstate
    obtain ⟨hid, hstatus⟩ := Prod.mk.inj heq
    rw [← hstatus, ← hid]
    exact hsmooth.statusOf_eq_running hl (rest first hfirst)
  refine ⟨?_, ?_, hagrees.states, ?_, ?_⟩
  · intro row hrow
    rw [running row hrow, hsmooth.running_iff hl hs.hub.reflects]
  · exact fun a => (hsmooth.writes_alternate hl a).nth
  · intro row hrow hnone
    rw [Ne, running row hrow, hsmooth.running_iff hl hs.hub.reflects]
    rintro ⟨g, hg, hga, -⟩
    exact Registry.contains_eq_false_iff.mp hnone g hg hga
  · intro hidle row hrow
    rw [Ne, running row hrow, hsmooth.running_iff hl hs.hub.reflects]
    rintro ⟨g, hg, -⟩
    rw [hs.live_eq_nil hidle] at hg
    cases hg

-- A run that is at work, and is `running` in the store.
def Engine.firstStart : List Action := [.askStart 1, .start 0, .start 0, .start 0, .start 0]

theorem Engine.firstStart_readable (n : Nat) :
    ∀ row ∈ ((ofSite Site.small).perform Setup.small (firstStart.take n)).hub.rows,
      ∃ x, row.read = .ok x := by
  intro row hrow
  match n with
  | 0 | 1 | 2 | 3 | 4 =>
      cases List.mem_singleton.mp hrow
      exact ⟨_, rfl⟩
  | n + 5 =>
      rw [List.take_of_length_le (by simp [firstStart])] at hrow
      cases List.mem_singleton.mp hrow
      exact ⟨_, rfl⟩

theorem Engine.status_agrees_small : Function.Injective Setup.small.names ∧
    Site.small.shared.Willing ∧
    ((ofSite Site.small).perform Setup.small firstStart).hub.rows.map SpiderRow.state =
      [(1, "running")] ∧
    (ofSite Site.small).StatusAgrees Setup.small firstStart := by
  have willing : Site.small.shared.Willing := ⟨fun _ _ => rfl, rfl⟩
  refine ⟨Setup.small_names, willing, rfl,
    status_agrees Setup.small_names Site.small _ willing ?_ ?_ ?_⟩
  · intro row hrow
    cases List.mem_singleton.mp hrow
    decide
  · intro before after h a
    refine Store.spider?_of_readable (fun row hrow => ?_) a
    have hbefore : before = firstStart.take before.length := by rw [h, List.take_left]
    rw [hbefore] at hrow
    exact firstStart_readable _ row hrow
  · intro k a t hm
    have hlog : (ofSite Site.small).history Setup.small firstStart =
        [.registered 0 1 "" 0, .begun 0 1 "" true] := rfl
    simp [hlog] at hm

end Spiderworks
