import Spiderworks.Proofs.Engine.Entries

namespace Spiderworks

open History

variable {log : List Event} {event : Event} {s : Setup} {h : Hub} {e : Engine} {i j k n : Nat}
  {x : String} {r : Run}

-- Somebody who wanted to stop the execution has lost patience.
def History.Hurried (log : List Event) (x : String) : Prop :=
  ∃ k a t, .expired k a t ∈ log ∧ t.execution = x

theorem History.Hurried.append {more : List Event} (h : Hurried log x) :
    Hurried (log ++ more) x := by
  obtain ⟨k, a, t, hm, hx⟩ := h
  exact ⟨k, a, t, List.mem_append_left _ hm, hx⟩

-- ### The signal that a task is done

namespace Registry

variable {g : Registry}

theorem finished_signal {f : Signals → Signals} (hf : ∀ v, (f v).finished = v.finished)
    (g : Registry) (m n : Nat) :
    ((g.signal m f).signalsOf n).finished = (g.signalsOf n).finished := by
  rcases signalsOf_signal g m n f with hs | ⟨-, hs⟩
  · rw [hs]
  · rw [hs, hf]

theorem signals_beginFinish {a : Int} {g' : Registry} (h : g.beginFinish a x = some g') :
    g'.signals = g.signals := by
  unfold beginFinish at h
  split at h
  · split at h <;> cases h
    rfl
  · cases h

theorem finished_remove {a : Int} {g' : Registry} (h : g.remove a x = some g') (n : Nat) :
    (g'.signalsOf n).finished = (g.signalsOf n).finished := by
  obtain ⟨e, -, rfl⟩ := Option.map_eq_some_iff.mp h
  exact finished_signal (f := fun v => { v with released := true }) (fun _ => rfl) _ e.number n

end Registry

def Hub.finished (h : Hub) (n : Nat) : Bool := (h.registry.signalsOf n).finished

theorem Hub.finished_unregister (h : Hub) (spider : Int) (x : String) (n : Nat) :
    (h.unregister spider x).finished n = h.finished n := by
  unfold Hub.unregister
  split
  · rename_i hm
    exact Registry.finished_remove hm n
  · rfl

theorem StartCall.finished_step (c : StartCall) (h : Hub) (n : Nat) :
    (c.step s h).2.2.finished n = h.finished n := by
  obtain ⟨spider, stage⟩ := c
  cases stage with
  | asking =>
      simp only [step, nextStage, stepAsking]
      split <;> rfl
  | reading =>
      have hw := Hub.Quiet.work h (readSpider spider)
      simp only [step, nextStage, stepReading]
      split <;> rename_i he <;> rw [he] at hw <;> rw [Hub.finished, hw.registry, Hub.finished]
  | registering d =>
      simp only [step, nextStage, stepRegistering]
      split
      · rename_i m g hm
        obtain ⟨-, -, rfl⟩ := Registry.register_eq_some_iff.mp hm
        exact congrArg Signals.finished (Registry.signalsOf_register h.registry n)
      · rfl
  | marking d x m =>
      have hw := Hub.Quiet.work (h.readClock s).2 (Work.session
        (Bookkeeping.markStarted (h.readClock s).1 ⟨d.id, d.name, x⟩))
      simp only [step, nextStage, stepMarking]
      split <;> rename_i he <;> rw [he] at hw <;> rw [Hub.finished, hw.registry] <;> rfl
  | withdrawing x e => exact h.finished_unregister spider x n
  | done r => rfl

theorem StopCall.finished_step (c : StopCall) (m : StopMove) (h : Hub) (n : Nat) :
    (c.step s m h).2.finished n = h.finished n := by
  obtain ⟨spider, stage⟩ := c
  cases stage with
  | asking =>
      simp only [step, nextStage, stepAsking]
      split
      · rfl
      · rename_i t g hm
        obtain ⟨g', -, -, -, -, rfl⟩ := Registry.beginStop_eq_some hm
        rfl
  | cancelling t =>
      exact Registry.finished_signal (f := fun v => { v with cancel := true }) (fun _ => rfl)
        h.registry t.number n
  | settling t => cases m <;> rfl
  | leaving t result => exact h.finished_unregister spider t.execution n
  | _ => rfl

-- Only a run that signs off gives it.
theorem Run.finished_step {r : Run} (m : RunMove) (hr : r.stage ≠ .signing) (h : Hub) (n : Nat) :
    (r.step s m h).2.finished n = h.finished n := by
  have attach (pid : Option Nat) : Hub.finished
      (h.setRegistry (h.registry.attach r.spider.id r.execution pid)) n = h.finished n := by
    rw [Hub.finished, Hub.setRegistry, Registry.attach]
    split <;> rfl
  by_cases hopen : r.stage.isOpen = true ∧ ∀ e, r.stage ≠ .ended e
  · obtain ⟨-, -, hq | ⟨pid, hq⟩⟩ :=
      Run.nextStage_open (s := s) (h := h) (g := id) m hopen.1 hopen.2
    · exact congrArg (fun g => (g.signalsOf n).finished) hq.registry
    · exact (congrArg (fun g => (g.signalsOf n).finished) hq.registry).trans (attach pid)
  · have claim (e : RunEnd) (he : r.stage = .ended e) :
        (r.stepEnded e h).2.finished n = h.finished n := by
      unfold stepEnded
      split
      · rfl
      · split
        · rename_i g hm
          rw [Hub.finished, Registry.signalsOf,
            show (h.setRegistry g).registry.signals = h.registry.signals from
              Registry.signals_beginFinish hm]
          rfl
        · rfl
    obtain ⟨d, x, number, began, stage⟩ := r
    cases stage with
    | ended e => exact claim e rfl
    | claimed e => rfl
    | leaving => exact h.finished_unregister d.id x n
    | signing => exact absurd rfl hr
    | done => rfl
    | _ => exact absurd ⟨rfl, fun e he => by cases he⟩ hopen

-- ### Tasks that have signed off

theorem Run.step_done {m : RunMove} (hr : r.stage = .done) : r.step s m h = (r, h) := by
  obtain ⟨d, x, n, began, stage⟩ := r
  cases hr
  rfl

theorem Engine.mem_act_of_done (hr : r ∈ e.runs) (hd : r.stage = .done) (a : Action) :
    r ∈ (e.act s a).runs := by
  cases a with
  | start i =>
      simp only [act, moveStart]
      split
      · exact hr
      · exact List.mem_append_left _ hr
  | run j m =>
      simp only [act, moveRun]
      split
      · exact hr
      · rename_i r' hj
        obtain ⟨i, hi⟩ := List.getElem?_of_mem hr
        by_cases hij : j = i
        · subst hij
          cases hi.symm.trans hj
          rw [Run.step_done hd]
          exact List.mem_set (List.getElem?_eq_some_iff.mp hj).1 r
        · refine List.mem_of_getElem? (i := i) ?_
          rw [List.getElem?_set_ne hij]
          exact hi
  | stop k m =>
      simp only [act, moveStop]
      split <;> exact hr
  | call i m =>
      simp only [act, moveCall]
      split <;> exact hr
  | _ => exact hr

-- The task of the execution has signed off.
def Engine.Over (e : Engine) (x : String) : Prop := ∃ r ∈ e.runs, r.execution = x ∧ r.stage = .done

theorem Engine.Over.act (ho : e.Over x) (a : Action) : (e.act s a).Over x := by
  obtain ⟨r, hr, hx, hd⟩ := ho
  exact ⟨r, mem_act_of_done hr hd a, hx, hd⟩

-- A request that is about to make its entry, or has made it, has seen the task signed off, or has
-- lost patience.
structure Engine.Waits (e : Engine) (log : List Event) : Prop where
  finished : ∀ n, e.hub.finished n = true → ∃ r ∈ e.runs, r.number = n ∧ r.stage = .done
  marking : ∀ c ∈ e.stops, ∀ t, c.stage = .marking t →
    Hurried log t.execution ∨ e.Over t.execution
  stopped : ∀ k a x, .stopped k a x ∈ log → Hurried log x ∨ e.Over x

namespace Engine.Waits

theorem init (site : Site) : (Engine.ofSite site).Waits [] := by
  refine ⟨fun n hn => ?_, ?_, ?_⟩
  · simp [Hub.finished, Engine.ofSite, Hub.ofSite, Registry.empty, Registry.signalsOf,
      Signals.fresh] at hn
  all_goals simp [Engine.ofSite]

-- What an action that sets no signal, and brings no request to its entry, leaves as it was.
theorem rest {o : Option Event} (hw : e.Waits log) (a : Action)
    (finished : ∀ n, (e.act s a).hub.finished n = e.hub.finished n)
    (stops : ∀ c ∈ (e.act s a).stops, ∀ t, c.stage = .marking t → c ∈ e.stops)
    (ho : ∀ event ∈ o, ∀ k a x, event ≠ .stopped k a x) :
    (e.act s a).Waits (log ++ o.toList) where
  finished n hn := by
    obtain ⟨r, hr, hx, hd⟩ := hw.finished n (finished n ▸ hn)
    exact ⟨r, mem_act_of_done hr hd a, hx, hd⟩
  marking c hc t ht :=
    (hw.marking c (stops c hc t ht) t ht).imp Hurried.append fun h => h.act a
  stopped k b x hm := by
    rcases List.mem_append.mp hm with hm | hm
    · exact (hw.stopped k b x hm).imp Hurried.append fun h => h.act a
    · exact absurd rfl (ho _ (Option.mem_toList.mp hm) k b x)

theorem moveStart (hw : e.Waits log) (i : Nat) :
    (e.act s (.start i)).Waits (log ++ (e.event? s (.start i)).toList) := by
  have hfinished (n : Nat) : (e.act s (.start i)).hub.finished n = e.hub.finished n := by
    simp only [Engine.act, Engine.moveStart]
    split
    · rfl
    · exact StartCall.finished_step _ e.hub n
  have hstops : (e.act s (.start i)).stops = e.stops := by
    simp only [Engine.act, Engine.moveStart]
    split <;> rfl
  refine hw.rest (.start i) hfinished (fun c hc _ _ => hstops ▸ hc) ?_
  rintro event he k b x rfl
  obtain ⟨c, -, hc⟩ := Option.bind_eq_some_iff.mp he
  cases StartCall.event?_party hc

theorem moveRun (hw : e.Waits log) (j : Nat) (m : RunMove) :
    (e.act s (.run j m)).Waits (log ++ (e.event? s (.run j m)).toList) := by
  have hstops : (e.act s (.run j m)).stops = e.stops := by
    simp only [Engine.act, Engine.moveRun]
    split <;> rfl
  have hevent : ∀ event ∈ e.event? s (.run j m), ∀ k a x, event ≠ .stopped k a x := by
    rintro event he k b x rfl
    obtain ⟨r, -, hr⟩ := Option.bind_eq_some_iff.mp he
    cases Run.event?_party hr
  cases hj : e.runs[j]? with
  | none =>
      refine hw.rest (.run j m) (fun n => ?_) (fun c hc _ _ => hstops ▸ hc) hevent
      simp only [Engine.act, Engine.moveRun, hj]
  | some r =>
      have hact : e.act s (.run j m) =
          { e with hub := (r.step s m e.hub).2, runs := e.runs.set j (r.step s m e.hub).1 } := by
        simp only [Engine.act, Engine.moveRun, hj]
      by_cases hr : r.stage = .signing
      · -- the run signs off, and gives the signal of its own number
        have hstep : r.step s m e.hub =
            ({ r with stage := .done }, e.hub.setRegistry (e.hub.registry.finish r.number)) := by
          simp only [Run.step, Run.nextStage, hr]
        have hself : { r with stage := .done } ∈ (e.act s (.run j m)).runs := by
          rw [hact, hstep]
          exact List.mem_set (List.getElem?_eq_some_iff.mp hj).1 _
        refine ⟨fun n hn => ?_, fun c hc t ht => ?_, fun k b x hm => ?_⟩
        · rw [hact, hstep] at hn
          rcases Registry.signalsOf_signal e.hub.registry r.number n
            (fun v => { v with finished := true }) with hs | ⟨rfl, -⟩
          · obtain ⟨r', hr', hx, hd⟩ := hw.finished n ((congrArg Signals.finished hs).symm.trans hn)
            exact ⟨r', mem_act_of_done hr' hd _, hx, hd⟩
          · exact ⟨_, hself, rfl, rfl⟩
        · exact (hw.marking c (hstops ▸ hc) t ht).imp Hurried.append fun h => h.act _
        · rcases List.mem_append.mp hm with hm | hm
          · exact (hw.stopped k b x hm).imp Hurried.append fun h => h.act _
          · exact absurd rfl (hevent _ (Option.mem_toList.mp hm) k b x)
      · refine hw.rest (.run j m) (fun n => ?_) (fun c hc _ _ => hstops ▸ hc) hevent
        rw [hact]
        exact Run.finished_step m hr e.hub n

-- The signal of a run that a request was granted for is that of its task.
theorem over_of_finished {c : StopCall} {t : StopTicket} (hs : e.Sound s log) (hw : e.Waits log)
    (hg : .granted k c.spider t ∈ log) (hf : e.hub.finished t.number = true) :
    e.Over t.execution := by
  obtain ⟨r, hr, hn, hd⟩ := hw.finished _ hf
  obtain ⟨j, hj⟩ := List.getElem?_of_mem hr
  obtain ⟨i, hi, -⟩ := (hs.runs j r hj).begun
  obtain ⟨i', hi'⟩ := hs.hub.lawful.registered_of_granted hg
  rw [hn] at hi
  exact ⟨r, hr, hs.hub.lawful.registered_of_number hi hi', hd⟩

theorem moveStop (hs : e.Sound s log) (hw : e.Waits log) (k : Nat) (m : StopMove) :
    (e.act s (.stop k m)).Waits (log ++ (e.event? s (.stop k m)).toList) := by
  cases hk : e.stops[k]? with
  | none =>
      have hact : e.act s (.stop k m) = e := by simp only [Engine.act, Engine.moveStop, hk]
      have hevent : e.event? s (.stop k m) = none := by
        simp only [Engine.event?, hk, Option.bind_none]
      rw [hact, hevent]
      simpa using hw
  | some c =>
      have hact : e.act s (.stop k m) =
          { e with hub := (c.step s m e.hub).2, stops := e.stops.set k (c.step s m e.hub).1 } := by
        simp only [Engine.act, Engine.moveStop, hk]
      have hevent : e.event? s (.stop k m) = c.event? k m e.hub := by
        simp only [Engine.event?, hk, Option.bind_some]
      have haccords := hs.stops k c hk
      refine ⟨fun n hn => ?_, fun c' hc' t ht => ?_, fun i b x hm => ?_⟩
      · rw [hact] at hn
        obtain ⟨r, hr, hx, hd⟩ := hw.finished n ((c.finished_step m e.hub n).symm.trans hn)
        exact ⟨r, mem_act_of_done hr hd _, hx, hd⟩
      · rw [hact] at hc'
        rcases List.mem_or_eq_of_mem_set hc' with hc' | rfl
        · exact (hw.marking c' hc' t ht).imp Hurried.append fun h => h.act _
        · -- the request has just gone from `settling` to its entry
          obtain ⟨spider, stage⟩ := c
          cases stage with
          | settling u =>
              cases hf : e.hub.finished u.number with
              | true =>
                  have hut : u = t := by
                    rw [Hub.finished] at hf
                    cases m <;> simpa [StopCall.step, StopCall.nextStage, StopCall.stepSettling, hf]
                      using ht
                  subst hut
                  exact .inr ((over_of_finished hs hw haccords.1 hf).act _)
              | false =>
                  rw [Hub.finished] at hf
                  cases m with
                  | onward =>
                      simp [StopCall.step, StopCall.nextStage, StopCall.stepSettling, hf] at ht
                  | expire =>
                      cases ht
                      refine .inl ⟨k, spider, _, ?_, rfl⟩
                      simp [hevent, StopCall.event?, hf]
          | asking =>
              simp only [StopCall.step, StopCall.nextStage, StopCall.stepAsking] at ht
              split at ht
              · cases ht
              · split at ht <;> cases ht
          | following u =>
              simp only [StopCall.step, StopCall.nextStage] at ht
              split at ht <;> cases ht
          | _ => cases ht
      · rcases List.mem_append.mp hm with hm | hm
        · exact (hw.stopped i b x hm).imp Hurried.append fun h => h.act _
        · rw [hevent] at hm
          have hmem := Option.mem_toList.mp hm
          obtain ⟨t, ht⟩ := StopCall.stage_of_entry hmem rfl
          simp only [StopCall.event?, ht] at hmem
          cases hmem
          exact (hw.marking c (List.mem_of_getElem? hk) t ht).imp Hurried.append fun h => h.act _

theorem act (hs : e.Sound s log) (hw : e.Waits log) (a : Action) :
    (e.act s a).Waits (log ++ (e.event? s a).toList) := by
  cases a with
  | askStart spider =>
      exact hw.rest (o := none) (.askStart spider) (fun _ => rfl) (fun c hc _ _ => hc) nofun
  | askStop spider =>
      refine hw.rest (o := none) (.askStop spider) (fun _ => rfl) (fun c hc t ht => ?_) nofun
      rcases List.mem_append.mp hc with hc | hc
      · exact hc
      · cases List.mem_singleton.mp hc
        cases ht
  | askCall spider code =>
      exact hw.rest (o := none) (.askCall spider code) (fun _ => rfl) (fun c hc _ _ => hc) nofun
  | askWait spider =>
      exact hw.rest (o := none) (.askWait spider) (fun _ => rfl) (fun c hc _ _ => hc) nofun
  | start i => exact hw.moveStart i
  | run j m => exact hw.moveRun j m
  | stop k m => exact hw.moveStop hs k m
  | call i m =>
      have hcall : (e.act s (.call i m)).hub.registry = e.hub.registry ∧
          (e.act s (.call i m)).stops = e.stops := by
        simp only [Engine.act, Engine.moveCall]
        split
        · exact ⟨rfl, rfl⟩
        · exact ⟨(DirectCall.step_spares _ m e.hub).registry, rfl⟩
      refine hw.rest (o := none) (.call i m) (fun n => ?_) (fun c hc _ _ => hcall.2 ▸ hc) nofun
      rw [Hub.finished, hcall.1, Hub.finished]
  | wait i => exact hw.rest (o := none) (.wait i) (fun _ => rfl) (fun c hc _ _ => hc) nofun

end Engine.Waits

theorem Engine.waits (fresh : Function.Injective s.names) (site : Site) (actions : List Action) :
    ((ofSite site).perform s actions).Waits ((ofSite site).history s actions) := by
  have hboth : ((ofSite site).perform s actions).Sound s ((ofSite site).history s actions) ∧
      ((ofSite site).perform s actions).Waits ((ofSite site).history s actions) :=
    perform_induction (P := fun e log => e.Sound s log ∧ e.Waits log)
      ⟨Sound.init site, Waits.init site⟩
      (fun _ _ a h => ⟨h.1.act fresh a, h.2.act h.1 a⟩) actions
  exact hboth.2

end Spiderworks
