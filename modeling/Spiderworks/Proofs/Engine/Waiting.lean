import Spiderworks.Proofs.Engine.Counters
import Spiderworks.Proofs.Engine.Finalisation
import Spiderworks.Proofs.Engine.Growth
import Spiderworks.Proofs.Engine.Notes
import Spiderworks.Proofs.Engine.StoredStatus

namespace Spiderworks

open History

variable {s : Setup} {h : Hub} {e : Engine} {log : List Event} {event : Event} {i j k n : Nat}
  {a : Int} {x : String} {f : RunEnd} {p : Session Unit} {now : Time.Instant}

-- ### Final entries that are made in full

-- What a final entry makes of the row of its spider.
def RunEnd.close : RunEnd → SpiderRow → SpiderRow
  | .stopped, r => { r with status := Status.stopped.name }
  | f, r => f.entry r

-- The status, the counter, and the line in the log.
structure Store.Closed (a : Int) (x : String) (f : RunEnd) (t u : Store) : Prop where
  present : t.has a = true
  rows : u.spiders = Store.rewrite a f.close t.spiders
  line : ∃ message, u.notes = t.notes ++ [⟨a, f.level, some .spiderRunner, message, some x⟩]

namespace SharedStore

variable {t u : SharedStore} {ws : List Write}

-- Writes that all succeed have found their spider.
theorem writes_ok (hws : ws ≠ []) (hrun : t.run (Session.writes a ws) = (.ok (), u)) :
    t.store.has a = true ∧ u.store = t.store.after ws := by
  cases hid : t.store.has a with
  | false =>
      obtain ⟨error, he⟩ := run_writes_absent hid hws
      cases hrun.symm.trans he
  | true =>
      obtain ⟨r, v, m, hr, hv, hall⟩ := t.run_writes_prefix a ws
      cases hrun.symm.trans hr
      exact ⟨rfl, hall rfl ▸ hv⟩

-- A change of the row and a line in the log are a final entry.
theorem closed_of_writes {y : Bookkeeping.Subject} {g : SpiderRow → SpiderRow} {level : LogLevel}
    {message : String} (hws : ws ≠ []) (hrun : t.run (Session.writes y.spider ws) = (.ok (), u))
    (hafter : t.store.after ws = (t.store.change y.spider g).logged now
      (Bookkeeping.line y level .spiderRunner message)) (hlevel : f.level = level)
    (hg : ∀ r, f.close r = g r) : t.store.Closed y.spider y.execution f u.store := by
  obtain ⟨hid, hu⟩ := writes_ok hws hrun
  rw [hu, hafter, ← funext hg]
  exact ⟨hid, rfl, message, hlevel ▸ Store.notes_logged now _ _⟩

theorem closed_of_finalEntry {r : Run} (hf : f.isStopped = false)
    (hrun : t.run (r.finalEntry now f) = (.ok (), u)) :
    t.store.Closed r.spider.id r.execution f u.store := by
  have changed (status : Status) (count : SpiderRow → SpiderRow) := Store.change_change
    (f := fun row => { row with status := status.name }) (g := count) (fun _ => rfl) t.store
    r.spider.id
  cases f with
  | exited o =>
      rw [Run.finalEntry] at hrun
      by_cases ho : o.code = 0
      · rw [ho, Bookkeeping.reconcile_zero_eq] at hrun
        exact closed_of_writes (List.cons_ne_nil _ _) hrun
          (congrArg (Store.logged now _) (changed .inactive _)) (if_pos ho) fun _ => if_pos ho
      · rw [Bookkeeping.reconcile_nonzero_eq _ _ ho] at hrun
        exact closed_of_writes (List.cons_ne_nil _ _) hrun
          (congrArg (Store.logged now _) (changed .error _)) (if_neg ho) fun _ => if_neg ho
  | stopped => cases hf
  | failed error =>
      rw [Run.finalEntry, Bookkeeping.recordFailure_eq] at hrun
      exact closed_of_writes (List.cons_ne_nil _ _) hrun
        (congrArg (Store.logged now _) (changed .error _)) rfl fun _ => rfl

theorem closed_of_markStopped (hrun : t.run (Bookkeeping.markStopped now a x) = (.ok (), u)) :
    t.store.Closed a x .stopped u.store := by
  have written (name : String) (v : SharedStore) (hv : v.run (do
        Session.setStatus a .stopped
        Bookkeeping.note now ⟨a, name, x⟩ .warning .spiderRunner
          ("Spider " ++ Bookkeeping.quoted name ++ " was stopped manually")) = (.ok (), u)) :
      v.store.Closed a x .stopped u.store := by
    rw [Bookkeeping.note_eq, Session.setStatus_eq_tell] at hv
    exact closed_of_writes (y := ⟨a, name, x⟩) (List.cons_ne_nil (Write.setStatus a .stopped) _)
      hv rfl rfl fun _ => rfl
  rw [Bookkeeping.markStopped, run_bind, Session.spider?_eq, run_look] at hrun
  split at hrun
  · rename_i found v hfound
    have hstore : v.store = t.store := by rw [← (Prod.mk.inj hfound).2]
    rw [← hstore]
    cases found with
    | none => exact written _ v hrun
    | some row => exact written _ v hrun
  · cases hrun

end SharedStore

-- ### Who makes them

-- An action that makes the final entry of an execution, the end that it enters, and the section of
-- the store in which it does.
inductive Engine.Closes (s : Setup) (e : Engine) (a : Int) (x : String) :
    Action → RunEnd → Session Unit → Prop where
  | task {j : Nat} {r : Run} {m : RunMove} {f : RunEnd} (hj : e.runs[j]? = some r)
      (hr : r.stage = .claimed f) (hf : f.isStopped = false) (ha : r.spider.id = a)
      (hx : r.execution = x) :
      Closes s e a x (.run j m) f (r.finalEntry (s.clock e.hub.readings) f)
  | stop {k : Nat} {c : StopCall} {m : StopMove} {t : StopTicket} (hk : e.stops[k]? = some c)
      (hc : c.stage = .marking t) (ha : c.spider = a) (hx : t.execution = x) :
      Closes s e a x (.stop k m) .stopped (Bookkeeping.markStopped (s.clock e.hub.readings) a x)

-- What comes of a section of the store: it may not even get hold of it.
def SharedStore.held (t : SharedStore) (p : Session Unit) :
    Except StoreError Unit × SharedStore := t.run (do Session.hold; p)

theorem SharedStore.run_of_held {t u : SharedStore} (hrun : t.held p = (.ok (), u)) :
    t.run p = (.ok (), u) := by
  rw [SharedStore.held, run_bind, run_hold] at hrun
  cases hp : t.poisoned with
  | true => simp [hp] at hrun
  | false => simpa [hp] using hrun

theorem Hub.shared_session (h : Hub) (p : Session Unit) :
    (h.work (Work.session p)).2.site.shared = (h.site.shared.held p).2 := by
  rw [Hub.work, Site.run_session, SharedStore.held]
  rcases h.site.shared.run (do Session.hold; p) with ⟨_ | _, shared⟩ <;> rfl

namespace Engine.Closes

variable {action : Action}

theorem shared (hc : e.Closes s a x action f p) :
    (e.act s action).hub.site.shared = (e.hub.site.shared.held p).2 := by
  cases hc with
  | task hj hr hf ha hx =>
      simp only [act, moveRun, hj, Run.step, Run.nextStage, hr, Run.stepClaimed]
      exact Hub.shared_session (e.hub.readClock s).2 _
  | stop hk hc ha hx =>
      simp only [act, moveStop, hk, StopCall.step, StopCall.nextStage, hc, StopCall.stepMarking,
        ha, hx]
      exact Hub.shared_session (e.hub.readClock s).2 _

theorem closed (hc : e.Closes s a x action f p)
    (hok : (e.hub.site.shared.held p).1 = .ok ()) :
    e.hub.store.Closed a x f (e.act s action).hub.store := by
  have hrun := SharedStore.run_of_held (u := (e.hub.site.shared.held p).2) (Prod.ext hok rfl)
  rw [Hub.store, Hub.store, hc.shared]
  cases hc with
  | task hj hr hf ha hx => exact ha ▸ hx ▸ SharedStore.closed_of_finalEntry hf hrun
  | stop hk hc ha hx => exact SharedStore.closed_of_markStopped hrun

-- Nothing but a refusal, or a spider that cannot be read, is in the way of a final entry.
theorem granted (hc : e.Closes s a x action f p) (willing : e.hub.site.shared.Willing)
    (hid : e.hub.has a = true)
    (readable : f.isStopped = true → ∃ found, e.hub.store.spider? a = .ok found) :
    (e.hub.site.shared.held p).1 = .ok () := by
  rw [SharedStore.held, SharedStore.run_bind, SharedStore.run_hold, willing.poisoned]
  cases hc with
  | @task j r m f hj hr hf ha hx =>
      obtain ⟨_, u, hrun, -⟩ := r.finalEntry_writes (s.clock e.hub.readings) f _ willing (ha ▸ hid)
      exact congrArg Prod.fst hrun
  | stop hk hc ha hx =>
      obtain ⟨u, hrun, -⟩ := Bookkeeping.markStopped_writes (s.clock e.hub.readings) x willing hid
        (readable rfl)
      exact congrArg Prod.fst hrun

end Engine.Closes

theorem StopCall.stage_of_stopped {c : StopCall} {m : StopMove}
    (he : .stopped i a x ∈ c.event? k m h) :
    i = k ∧ c.spider = a ∧ ∃ t, c.stage = .marking t ∧ t.execution = x := by
  obtain ⟨t, ht⟩ := StopCall.stage_of_entry he rfl
  simp only [event?, ht] at he
  cases he
  exact ⟨rfl, rfl, t, ht, rfl⟩

theorem Engine.Sound.closes {action : Action} (hs : e.Sound s log)
    (he : event ∈ e.event? s action) (hf : event.isFinal = true) :
    ∃ f p, e.Closes s event.spider event.execution action f p := by
  cases event with
  | settled j a x f =>
      obtain ⟨r, m, rfl, hj, ha, hx, hr⟩ := Engine.run_of_settled he
      have hstage := (hs.runs j r hj).stage
      simp only [Run.StageAccords, hr] at hstage
      exact ⟨f, _, .task hj hr hstage.2.1 ha hx⟩
  | stopped k a x =>
      have hparty := Engine.party_of_event he
      cases action with
      | stop k' m =>
          obtain ⟨c, hk, hc⟩ := Option.bind_eq_some_iff.mp he
          obtain ⟨-, ha, t, ht, hx⟩ := StopCall.stage_of_stopped hc
          exact ⟨_, _, .stop hk ht ha hx⟩
      | _ => cases hparty
  | _ => cases hf

-- Everything that has happened was the doing of some action.
theorem Engine.exists_action {actions : List Action} (hm : event ∈ e.history s actions) :
    ∃ before action after, actions = before ++ action :: after ∧
      event ∈ (e.perform s before).event? s action := by
  induction actions generalizing e with
  | nil => cases hm
  | cons action rest ih =>
      rcases List.mem_append.mp hm with hm | hm
      · exact ⟨[], action, rest, rfl, Option.mem_toList.mp hm⟩
      · obtain ⟨before, action', after, rfl, he⟩ := ih hm
        exact ⟨action :: before, action', after, rfl, he⟩

-- ### Spiders that are there

-- Only a spider that is there is ever registered.
structure Engine.Knows (e : Engine) (log : List Event) : Prop where
  registered : ∀ i a x n, .registered i a x n ∈ log → e.hub.has a = true
  read : ∀ c ∈ e.starts, ∀ d, c.stage = .registering d → e.hub.has d.id = true

theorem Store.Grows.has {P : Int → Prop} {t u : Store} (h : t.Grows P u) (hid : t.has a = true) :
    u.has a = true := by
  have hids : u.spiders.map (·.id) = t.spiders.map (·.id) := by
    have hrows := List.forall₂_map_left_iff.mpr (List.forall₂_map_right_iff.mpr
      (h.rows.imp fun _ _ hr => hr.id.symm))
    exact (List.forall₂_eq_eq_eq ▸ hrows : _ = _).symm
  rw [Store.has_iff, hids, ← Store.has_iff]
  exact hid

namespace Engine.Knows

variable {e' : Engine} {o : Option Event}

-- A step that registers nobody and finds no spider.
theorem quiet {P : Int → Prop} (h : e.Knows log) (grown : e.hub.store.Grows P e'.hub.store)
    (ho : ∀ event ∈ o, ∀ i a x n, event ≠ .registered i a x n) (starts : e'.starts = e.starts) :
    e'.Knows (log ++ o.toList) where
  registered i a x n hm := by
    rcases List.mem_append.mp hm with hm | hm
    · exact grown.has (h.registered i a x n hm)
    · exact absurd rfl (ho _ (Option.mem_toList.mp hm) i a x n)
  read c hc d hd := grown.has (h.read c (starts ▸ hc) d hd)

theorem moveStart (hs : e.Sound s log) (h : e.Knows log) (i : Nat) :
    (e.act s (.start i)).Knows (log ++ (e.event? s (.start i)).toList) := by
  have grown := e.grows_act (s := s) (.start i)
  simp only [Engine.act, Engine.moveStart, Engine.event?] at grown ⊢
  cases hi : e.starts[i]? with
  | none => simpa using h
  | some c =>
      simp only [hi, Option.bind_some] at grown ⊢
      refine ⟨fun j a x n hm => ?_, fun c' hc' d hd => ?_⟩
      · rcases List.mem_append.mp hm with hm | hm
        · exact grown.has (h.registered j a x n hm)
        · obtain ⟨rfl, d, hd⟩ := StartCall.spider_of_registered (Option.mem_toList.mp hm)
          have haccords := hs.starts i c hi
          simp only [StartCall.Accords, hd] at haccords
          exact haccords.1 ▸ grown.has (h.read c (List.mem_of_getElem? hi) d hd)
      · rcases List.mem_or_eq_of_mem_set hc' with hc' | rfl
        · exact grown.has (h.read c' hc' d hd)
        · exact grown.has (StartCall.has_of_registering hd)

theorem act (hs : e.Sound s log) (h : e.Knows log) (action : Action) :
    (e.act s action).Knows (log ++ (e.event? s action).toList) := by
  have grown := e.grows_act (s := s) action
  have registers (event : Event) (he : event ∈ e.event? s action) (i : Nat) (a : Int) (x : String)
      (n : Nat) (hevent : event = .registered i a x n) : action.party? = some (.start i) := by
    rw [party_of_event he, hevent]
    rfl
  cases action with
  | start i => exact h.moveStart hs i
  | askStart spider =>
      refine ⟨fun i a x n hm => h.registered i a x n (by simpa [event?] using hm), ?_⟩
      intro c hc d hd
      rcases List.mem_append.mp hc with hc | hc
      · exact h.read c hc d hd
      · cases List.mem_singleton.mp hc
        cases hd
  | run _ _ | stop _ _ | call _ _ =>
      refine h.quiet grown (fun event he i a x n hx => ?_) ?_
      · cases registers event he i a x n hx
      · simp only [Engine.act, moveRun, moveStop, moveCall]
        split <;> rfl
  | _ => exact h.quiet grown (fun event he => absurd he (Option.not_mem_none event)) rfl

end Engine.Knows

-- ### Those who wait

-- An action that lets somebody go on who has waited for the run with this number: who waits for its
-- completion, or a request to stop that was not the first one.
inductive Engine.Wakes (s : Setup) (e : Engine) : Action → Int → Nat → Prop where
  | wait {i n : Nat} {c : WaitCall} (hi : e.waiters[i]? = some c) (hc : c.stage = .following n)
      (hdone : (c.step e.hub).stage = .done) : Wakes s e (.wait i) c.spider n
  | stop {k : Nat} {m : StopMove} {t : StopTicket} {c : StopCall} (hk : e.stops[k]? = some c)
      (hc : c.stage = .following t) (hdone : (c.step s m e.hub).1.stage = .done (.ok ())) :
      Wakes s e (.stop k m) c.spider t.number

-- Who waits has asked for a run of the spider.
def Engine.Follows (e : Engine) (log : List Event) : Prop :=
  ∀ c ∈ e.waiters, ∀ n, c.stage = .following n → ∃ i x, .registered i c.spider x n ∈ log

theorem Registry.exists_of_number? {r : Registry} (hn : r.number? a = some n) :
    ∃ g ∈ r.live, g.spider = a ∧ g.number = n := by
  obtain ⟨g, hg, rfl⟩ := Option.map_eq_some_iff.mp hn
  exact ⟨g, List.mem_of_find?_eq_some hg, by simpa using List.find?_some hg, rfl⟩

namespace Engine.Follows

theorem quiet {e' : Engine} {o : Option Event} (h : e.Follows log)
    (waiters : e'.waiters = e.waiters) : e'.Follows (log ++ o.toList) := by
  intro c hc n hn
  obtain ⟨i, x, hi⟩ := h c (waiters ▸ hc) n hn
  exact ⟨i, x, List.mem_append_left _ hi⟩

theorem step (hs : e.Sound s log) {c : WaitCall} (hn : (c.step e.hub).stage = .following n)
    (hc : ∀ n, c.stage = .following n → ∃ i x, .registered i c.spider x n ∈ log) :
    ∃ i x, .registered i c.spider x n ∈ log := by
  obtain ⟨spider, stage⟩ := c
  cases stage with
  | asking =>
      simp only [WaitCall.step, WaitCall.nextStage] at hn
      split at hn
      · rename_i hnumber
        cases hn
        obtain ⟨g, hg, rfl, rfl⟩ := Registry.exists_of_number? hnumber
        obtain ⟨i, hi⟩ := hs.hub.reflects.registered g hg
        exact ⟨i, g.execution, hi⟩
      · cases hn
  | following m =>
      simp only [WaitCall.step, WaitCall.nextStage] at hn
      split at hn <;> cases hn
      exact hc n rfl
  | done => cases hn

theorem act (hs : e.Sound s log) (h : e.Follows log) (action : Action) :
    (e.act s action).Follows (log ++ (e.event? s action).toList) := by
  cases action with
  | askWait spider =>
      intro c hc n hn
      rcases List.mem_append.mp hc with hc | hc
      · obtain ⟨i, x, hi⟩ := h c hc n hn
        exact ⟨i, x, List.mem_append_left _ hi⟩
      · cases List.mem_singleton.mp hc
        cases hn
  | wait i =>
      refine (List.append_nil log).symm ▸ fun c hc n hn => ?_
      obtain ⟨j, hj⟩ := List.getElem?_of_mem hc
      simp only [Engine.act, moveWait, List.getElem?_modify] at hj
      obtain ⟨c', hc', rfl⟩ := Option.map_eq_some_iff.mp hj
      have hfollows := h c' (List.mem_of_getElem? hc')
      split at hn
      · rename_i hij
        rw [if_pos hij]
        exact step (c := c') hs hn hfollows
      · rename_i hij
        rw [if_neg hij]
        exact hfollows n hn
  | start _ | run _ _ | stop _ _ | call _ _ =>
      refine h.quiet ?_
      simp only [Engine.act, moveStart, moveRun, moveStop, moveCall]
      split <;> rfl
  | _ => exact h.quiet rfl

end Engine.Follows

-- ### What they see

-- The final entry of the execution `x`, which `action` makes in the section `p` of the store. Once
-- it is made in full, nothing that comes after it takes its line back or lowers its counter, and
-- only another entry of the spider sets another status.
structure Engine.Entered (s : Setup) (e : Engine) (before : List Action) (action : Action)
    (after : List Action) (a : Int) (x : String) (f : RunEnd) (p : Session Unit) : Prop where
  closes : (e.perform s before).Closes s a x action f p
  made : (e.perform s (before ++ [action])).hub.site.shared =
    ((e.perform s before).hub.site.shared.held p).2
  closed : ((e.perform s before).hub.site.shared.held p).1 = .ok () →
    (e.perform s before).hub.store.Closed a x f (e.perform s (before ++ [action])).hub.store
  granted : e.hub.site.shared.Willing →
    (f.isStopped = true → ∃ found, (e.perform s before).hub.store.spider? a = .ok found) →
    ((e.perform s before).hub.site.shared.held p).1 = .ok ()
  kept : (e.perform s (before ++ [action])).hub.store.Grows
    (fun b => ∃ event ∈ (e.perform s (before ++ [action])).history s after,
      event.isEntry = true ∧ event.spider = b)
    (e.perform s (before ++ action :: after)).hub.store

def Engine.Shows (s : Setup) (e : Engine) (actions : List Action) (a : Int) (x : String) : Prop :=
  ∃ before action after f p, actions = before ++ action :: after ∧
    e.Entered s before action after a x f p

namespace Engine

theorem knows (fresh : Function.Injective s.names) (site : Site) (actions : List Action) :
    ((ofSite site).perform s actions).Knows ((ofSite site).history s actions) :=
  (perform_induction (P := fun e log => e.Sound s log ∧ e.Knows log)
    ⟨Sound.init site, by simp [Knows.mk, ofSite]⟩
    (fun _ _ action h => ⟨h.1.act fresh action, h.2.act h.1 action⟩) actions).2

theorem follows (fresh : Function.Injective s.names) (site : Site) (actions : List Action) :
    ((ofSite site).perform s actions).Follows ((ofSite site).history s actions) :=
  (perform_induction (P := fun e log => e.Sound s log ∧ e.Follows log)
    ⟨Sound.init site, by simp [Follows, ofSite]⟩
    (fun _ _ action h => ⟨h.1.act fresh action, h.2.act h.1 action⟩) actions).2

theorem entered (fresh : Function.Injective s.names) (site : Site) {before after : List Action}
    {action : Action} (he : event ∈ ((ofSite site).perform s before).event? s action)
    (hf : event.isFinal = true) : ∃ f p, (ofSite site).Entered s before action after event.spider
      event.execution f p := by
  have hs := sound fresh site before
  obtain ⟨f, p, hc⟩ := hs.closes he hf
  have hstep : (ofSite site).perform s (before ++ [action]) =
      ((ofSite site).perform s before).act s action := perform_append _ before [action]
  have hafter : (ofSite site).perform s (before ++ action :: after) =
      ((ofSite site).perform s (before ++ [action])).perform s after := by
    rw [← perform_append, List.append_assoc]
    rfl
  refine ⟨f, p, hc, hstep ▸ hc.shared, fun hok => hstep ▸ hc.closed hok, ?_, hafter ▸ grows _ _⟩
  intro willing readable
  have hlawful := (hs.act fresh action).hub.lawful
  rw [show ((ofSite site).perform s before).event? s action = some event from he,
    Option.toList_some] at hlawful
  obtain ⟨i, n, hi⟩ := hlawful.allowed_last.registered_of_entry hs.hub.lawful
    (Event.isEntry_of_isFinal hf)
  exact hc.granted (counts fresh site willing before).willing
    ((knows fresh site before).registered i _ _ n hi) readable

theorem shows (fresh : Function.Injective s.names) (site : Site) {actions : List Action}
    (hi : .registered i a x n ∈ (ofSite site).history s actions)
    (hf : Finalised ((ofSite site).history s actions) x) : (ofSite site).Shows s actions a x := by
  obtain ⟨event, hm, hfinal, rfl⟩ := hf
  have hl := (sound fresh site actions).hub.lawful
  obtain ⟨before, after, hlog, hl', ha⟩ := hl.exists_allowed hm
  obtain ⟨j, m, hj⟩ := ha.registered_of_entry hl' (Event.isEntry_of_isFinal hfinal)
  obtain ⟨-, rfl, -⟩ := hl.registered_unique (hlog ▸ List.mem_append_left _ hj) hi
  obtain ⟨before, action, after, rfl, he⟩ := exists_action hm
  obtain ⟨f, p, hentered⟩ := entered fresh site he hfinal
  exact ⟨before, action, after, f, p, rfl, hentered⟩

-- ### Released runs

-- Whoever goes on has seen the signal, and knows of the run from its registration.
theorem Sound.freed_of_wakes {action : Action} (hs : e.Sound s log) (hw : e.Follows log)
    (h : e.Wakes s action a n) : ∃ i x, .registered i a x n ∈ log ∧ Freed log x := by
  cases h with
  | @wait i n c hi hc hdone =>
      obtain ⟨j, x, hj⟩ := hw c (List.mem_of_getElem? hi) n hc
      simp only [WaitCall.step, WaitCall.nextStage, hc] at hdone
      split at hdone
      · rename_i hn
        exact ⟨j, x, hj, hs.freed_of_released hj hn⟩
      · cases hdone
  | @stop k m t c hk hc hdone =>
      have haccords := hs.stops k c hk
      simp only [StopCall.Accords, hc] at haccords
      obtain ⟨j, hj⟩ := hs.hub.lawful.registered_of_granted haccords.1
      simp only [StopCall.step, StopCall.nextStage, hc] at hdone
      split at hdone
      · rename_i hn
        exact ⟨j, _, hj, hs.freed_of_released hj hn⟩
      · cases hdone

-- `idle`: no registration is leaked. `freed`: at the moment it is freed, a registration has its
-- final entry behind it, unless its start could not be entered. `removed` and `released`: so has
-- every run that is not registered any more, or that its signal is up for, and the entry is there
-- to see. `woken`: so it is for everybody who has waited for a run and goes on. `statuses` and
-- `counters` say what else they find in a store that refuses nothing: the statuses are those of the
-- last entries, and the counters those of the ledger.
structure ReleasesFinalised (s : Setup) (e : Engine) (actions : List Action) : Prop where
  idle : (e.perform s actions).Idle → (e.perform s actions).hub.registry.live = []
  freed : ∀ before after p a x, e.history s actions = before ++ .freed p a x :: after →
    Finalised before x ∨ ∃ i, .begun i a x false ∈ before
  removed : ∀ r ∈ (e.perform s actions).runs,
    (e.perform s actions).hub.registry.own? r.spider.id r.execution = none →
    (e.history s actions).countP (fun event => event.isFinal && event.execution == r.execution) =
      1 ∧ e.Shows s actions r.spider.id r.execution
  released : ∀ r ∈ (e.perform s actions).runs,
    (r.signals (e.perform s actions).hub).released = true →
    (e.history s actions).countP (fun event => event.isFinal && event.execution == r.execution) =
      1 ∧ e.Shows s actions r.spider.id r.execution
  woken : ∀ action a n, (e.perform s actions).Wakes s action a n →
    ∃ i x, .registered i a x n ∈ e.history s actions ∧
      ((∃ j b, .begun j b x false ∈ e.history s actions) ∨
        (e.history s actions).countP (fun event => event.isFinal && event.execution == x) = 1 ∧
          e.Shows s actions a x)
  statuses : e.hub.site.shared.Willing →
    (∀ before after, actions = before ++ after → ∀ a, ∃ found,
      (e.perform s before).hub.site.shared.store.spider? a = .ok found) →
    (e.perform s actions).hub.rows.map SpiderRow.state =
      e.hub.rows.map fun r => (r.id, statusOf (e.history s actions) r)
  counters : e.hub.site.shared.Willing →
    (e.perform s actions).hub.rows.map SpiderRow.counters =
      e.hub.rows.map (SpiderRow.counted ((e.perform s actions).ledger (e.history s actions)))

theorem released_finalised (fresh : Function.Injective s.names) (site : Site)
    (actions : List Action) : (ofSite site).ReleasesFinalised s actions := by
  have hs := Engine.sound fresh site actions
  have hl := hs.hub.lawful
  have seen (r : Run) (hr : r ∈ ((ofSite site).perform s actions).runs)
      (hfreed : ∀ i, .registered i r.spider.id r.execution r.number ∈
        (ofSite site).history s actions → Freed ((ofSite site).history s actions) r.execution) :
      ((ofSite site).history s actions).countP
          (fun event => event.isFinal && event.execution == r.execution) = 1 ∧
        (ofSite site).Shows s actions r.spider.id r.execution := by
    obtain ⟨j, hj⟩ := List.getElem?_of_mem hr
    obtain ⟨i, hi, hb⟩ := (hs.runs j r hj).begun
    have hf := hs.finalised_of_freed ⟨i, _, hb⟩ (hfreed i hi)
    exact ⟨hl.final_eq_one hf, shows fresh site hi hf⟩
  refine ⟨hs.live_eq_nil, ?_, ?_, ?_, ?_, ?_, ?_⟩
  · intro before after p a x hlog
    have ha := (hlog ▸ hl).allowed_at
    cases p with
    | start i => exact .inr ⟨i, ha.2⟩
    | run j =>
        obtain ⟨-, f, hf⟩ := ha
        exact .inl ⟨_, hf, rfl, rfl⟩
    | stop k => exact .inl ⟨_, ha.2, rfl, rfl⟩
  · intro r hr hown
    refine seen r hr fun i hi => ?_
    rcases hs.hub.reflects.live_or_freed _ _ _ _ hi with ⟨g, hg, hgs, hgx, -⟩ | hf
    · exact absurd hgx ((Registry.own?_eq_none_iff hs.hub.reflects.sole).mp hown g hg hgs)
    · exact hf
  · exact fun r hr hn => seen r hr fun i hi => hs.freed_of_released hi hn
  · intro action a n hwakes
    obtain ⟨i, x, hi, hfreed⟩ := hs.freed_of_wakes (follows fresh site actions) hwakes
    refine ⟨i, x, hi, ?_⟩
    rcases hl.finalised_of_freed hfreed with hf | hb
    · exact .inr ⟨hl.final_eq_one hf, shows fresh site hi hf⟩
    · exact .inl hb
  · exact fun willing readable => (Engine.agrees fresh site actions willing readable).states
  · exact fun willing => (Engine.counts fresh site willing actions).counters

-- A request to stop whose time is over releases a run that is still at work, after its entry. Then
-- somebody who waits for the run goes on, and so does a second request to stop it.
def releasedRun : List Action :=
  [.askStart 1, .start 0, .start 0, .start 0, .start 0, .askWait 1, .wait 0, .askStop 1,
    .stop 0 .onward, .askStop 1, .stop 1 .onward, .stop 0 .onward, .stop 0 .expire, .stop 0 .onward,
    .stop 0 .onward]

theorem released_finalised_small : Function.Injective Setup.small.names ∧
    ((ofSite Site.small).perform Setup.small releasedRun).hub.registry.live = [] ∧
    ((ofSite Site.small).perform Setup.small releasedRun).Wakes Setup.small (.wait 0) 1 0 ∧
    ((ofSite Site.small).perform Setup.small releasedRun).Wakes Setup.small
      (.stop 1 .onward) 1 0 ∧
    ((ofSite Site.small).perform Setup.small releasedRun).hub.rows.map SpiderRow.state =
      [(1, "stopped")] ∧
    ((ofSite Site.small).perform Setup.small releasedRun).hub.notes.map (·.level) =
      [.info, .warning] ∧
    (ofSite Site.small).ReleasesFinalised Setup.small releasedRun :=
  ⟨Setup.small_names, rfl, @Wakes.wait _ _ 0 0 ⟨1, .following 0⟩ rfl rfl rfl,
    @Wakes.stop _ _ 1 .onward ⟨"", 0, false⟩ ⟨1, .following ⟨"", 0, false⟩⟩ rfl rfl rfl, rfl,
    rfl,
    released_finalised Setup.small_names Site.small _⟩

end Engine

end Spiderworks
