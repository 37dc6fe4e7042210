import Spiderworks.Proofs.Engine.Frame
import Spiderworks.Proofs.Registry.Reflection
import Spiderworks.Proofs.Store.Requests

namespace Spiderworks

open History

-- ### Parties that accord with a history

section

variable {log : List Event} {event : Event} {i j k : Nat} {s : Setup} {h : Hub}

def StartCall.Accords (i : Nat) (c : StartCall) (log : List Event) : Prop :=
  match c.stage with
  | .asking | .reading => ∀ event ∈ log, event.party ≠ .start i
  | .registering d => d.id = c.spider ∧ ∀ event ∈ log, event.party ≠ .start i
  | .marking d x n =>
      d.id = c.spider ∧ .registered i c.spider x n ∈ log ∧ ∀ a y r, .begun i a y r ∉ log
  | .withdrawing x _ => .begun i c.spider x false ∈ log
  | .done _ => ∀ a x n, .registered i a x n ∈ log →
    .begun i a x true ∈ log ∨ .begun i a x false ∈ log ∧ Freed log x

def Run.StageAccords (j : Nat) (r : Run) (log : List Event) : Prop :=
  match r.stage with
  | .claimed e =>
      .claimed j r.spider.id r.execution ∈ log ∧ e.isStopped = false ∧
        ∀ a y f, .settled j a y f ∉ log
  | .leaving => ∃ e, .settled j r.spider.id r.execution e ∈ log
  | .signing | .done => Freed log r.execution ∨
    Granted log r.execution ∧ ∀ event ∈ log, event.party ≠ .run j
  | stage => (stage.isStopping = true → Granted log r.execution) ∧
    ∀ event ∈ log, event.party ≠ .run j

structure Run.Accords (j : Nat) (r : Run) (log : List Event) : Prop where
  begun : ∃ i, .registered i r.spider.id r.execution r.number ∈ log ∧
    .begun i r.spider.id r.execution true ∈ log
  own : ∀ event ∈ log, event.party = .run j →
    event.spider = r.spider.id ∧ event.execution = r.execution
  stage : r.StageAccords j log

def StopCall.Accords (k : Nat) (c : StopCall) (log : List Event) : Prop :=
  match c.stage with
  | .asking => ∀ event ∈ log, event.party ≠ .stop k
  | .cancelling t | .settling t =>
      .granted k c.spider t ∈ log ∧ t.initiator = true ∧ ∀ a y, .stopped k a y ∉ log
  | .marking t =>
      .granted k c.spider t ∈ log ∧ t.initiator = true ∧ (∀ a y, .stopped k a y ∉ log) ∧
        (Recorded log t.execution ∨ Overtaken log t.execution)
  | .leaving t _ =>
      .granted k c.spider t ∈ log ∧ t.initiator = true ∧ .stopped k c.spider t.execution ∈ log
  | .following t => .granted k c.spider t ∈ log ∧ t.initiator = false
  | .done _ => ∀ a t, .granted k a t ∈ log → t.initiator = true → Freed log t.execution

-- ### Events of somebody else

theorem History.forall_concat {p : Party} (h : ∀ event ∈ log, event.party ≠ p)
    (hp : event.party ≠ p) : ∀ v ∈ log ++ [event], v.party ≠ p := by
  intro v hv
  rcases List.mem_append.mp hv with hv | hv
  · exact h v hv
  · rwa [List.mem_singleton.mp hv]

theorem StartCall.Accords.concat {c : StartCall} (h : c.Accords i log)
    (hp : event.party ≠ .start i) : c.Accords i (log ++ [event]) := by
  have registered (a : Int) (x : String) (n : Nat) :
      .registered i a x n ∈ log ++ [event] ↔ .registered i a x n ∈ log := by
    cases event <;> simp_all [Event.party, eq_comm]
  have begun (a : Int) (x : String) (r : Bool) :
      .begun i a x r ∈ log ++ [event] ↔ .begun i a x r ∈ log := by
    cases event <;> simp_all [Event.party, eq_comm]
  unfold StartCall.Accords at h ⊢
  split at h
  · exact forall_concat h hp
  · exact forall_concat h hp
  · exact ⟨h.1, forall_concat h.2 hp⟩
  · simpa only [registered, begun] using h
  · simpa only [begun] using h
  · intro a x n hm
    rw [begun, begun, freed_concat]
    exact (h a x n ((registered a x n).mp hm)).imp id fun ⟨hb, hf⟩ => ⟨hb, .inl hf⟩

theorem Run.Accords.concat {r : Run} (h : r.Accords j log) (hp : event.party ≠ .run j) :
    r.Accords j (log ++ [event]) := by
  obtain ⟨⟨i, hi, hb⟩, own, stage⟩ := h
  refine ⟨⟨i, List.mem_append_left _ hi, List.mem_append_left _ hb⟩, ?_, ?_⟩
  · intro v hv hvp
    rcases List.mem_append.mp hv with hv | hv
    · exact own v hv hvp
    · rw [List.mem_singleton.mp hv] at hvp
      exact absurd hvp hp
  · have settled (a : Int) (x : String) (e : RunEnd) :
        .settled j a x e ∈ log ++ [event] ↔ .settled j a x e ∈ log := by
      cases event <;> simp_all [Event.party, eq_comm]
    unfold Run.StageAccords at stage ⊢
    split at stage
    · simp only [settled]
      exact ⟨List.mem_append_left _ stage.1, stage.2⟩
    · simpa only [settled] using stage
    · rw [freed_concat, granted_concat]
      exact stage.imp .inl fun ⟨hg, hn⟩ => ⟨.inl hg, forall_concat hn hp⟩
    · rw [freed_concat, granted_concat]
      exact stage.imp .inl fun ⟨hg, hn⟩ => ⟨.inl hg, forall_concat hn hp⟩
    · exact ⟨fun hs => granted_concat.mpr (.inl (stage.1 hs)), forall_concat stage.2 hp⟩

theorem StopCall.Accords.concat {c : StopCall} (h : c.Accords k log)
    (hp : event.party ≠ .stop k) : c.Accords k (log ++ [event]) := by
  have granted (a : Int) (t : StopTicket) :
      .granted k a t ∈ log ++ [event] ↔ .granted k a t ∈ log := by
    cases event <;> simp_all [Event.party, eq_comm]
  have stopped (a : Int) (x : String) :
      .stopped k a x ∈ log ++ [event] ↔ .stopped k a x ∈ log := by
    cases event <;> simp_all [Event.party, eq_comm]
  unfold StopCall.Accords at h ⊢
  split at h
  · exact forall_concat h hp
  · simpa only [granted, stopped] using h
  · simpa only [granted, stopped] using h
  · simp only [granted, stopped]
    obtain ⟨hg, ht, hs, hro⟩ := h
    exact ⟨hg, ht, hs, hro.imp (fun hr => recorded_concat.mpr (.inl hr)) Overtaken.concat⟩
  · simpa only [granted, stopped] using h
  · simpa only [granted] using h
  · intro a t hm ht
    exact freed_concat.mpr (.inl (h a t ((granted a t).mp hm) ht))

end

variable {α : Type} {log : List Event} {i j k : Nat} {s : Setup} {h : Hub}

-- ### The hub

structure Hub.Accords (h : Hub) (log : List Event) : Prop where
  lawful : Lawful log
  reflects : h.registry.Reflects log

theorem Hub.Accords.quiet {h' : Hub} (hh : h.Accords log) (hq : h.Quiet h') : h'.Accords log :=
  ⟨hh.lawful, hq.registry ▸ hh.reflects⟩

-- Freeing a registration, by whoever is allowed to.
theorem Hub.Accords.unregister {p : Party} {spider : Int} {x : String} (hh : h.Accords log)
    (ha : ¬Freed log x → Allowed log (.freed p spider x)) :
    (h.unregister spider x).Accords
      (log ++ ((h.registry.remove spider x).map fun _ => Event.freed p spider x).toList) := by
  unfold Hub.unregister
  cases hm : h.registry.remove spider x with
  | none => simpa using hh
  | some r =>
      obtain ⟨g, hg, -, rfl, -⟩ := Registry.remove_eq_some hh.reflects.sole hm
      exact ⟨hh.lawful.concat (ha (hh.reflects.held g hg)), hh.reflects.free hh.lawful hm⟩

-- After that nobody holds the registration any more.
theorem Hub.Accords.freed_of_unregister {p : Party} {spider : Int} {x : String} {n : Nat}
    (hh : h.Accords log) (hi : .registered i spider x n ∈ log) :
    Freed (log ++ ((h.registry.remove spider x).map fun _ => Event.freed p spider x).toList) x := by
  cases hm : h.registry.remove spider x with
  | none =>
      rcases hh.reflects.live_or_freed i spider x n hi with ⟨g, hg, hs, hx, -⟩ | hf
      · exact absurd hx (Registry.remove_eq_none hh.reflects.sole hm hg hs)
      · simpa using hf
  | some r => exact freed_concat.mpr (.inr ⟨p, spider, rfl⟩)

-- ### Start calls

theorem StartCall.readSpider_eq_ok {site : Site} {spider : Int} {d : Definition}
    (h : (site.run (readSpider spider)).1 = .ok d) :
    d.id = spider ∧ site.shared.store.has spider = true := by
  have hrun : site.run (readSpider spider) = (.ok d, _) := Prod.ext h rfl
  obtain ⟨found, u, hlook, hrest⟩ := Site.bind_ok hrun
  obtain ⟨hspider, -⟩ := Site.session_ok hlook
  cases found with
  | none => cases congrArg Prod.fst hrest
  | some x =>
      cases congrArg Prod.fst hrest
      exact SharedStore.run_spider?_eq_some (congrArg Prod.fst hspider)

-- A name that was not registered yet does not occur at all.
theorem Hub.Accords.unused {x : String} (hh : h.Accords log)
    (hx : ∀ j b m, .registered j b x m ∉ log) : ∀ event ∈ log, event.execution ≠ x := by
  rintro event hm rfl
  obtain ⟨i, a, n, hi⟩ := hh.lawful.registered_of_mem hm
  exact hx i a n hi

theorem StartCall.step_sound {c : StartCall} (hh : h.Accords log) (hc : c.Accords i log)
    (fresh : ∀ j b m, .registered j b (h.newName s).1 m ∉ log) :
    (c.step s h).2.2.Accords (log ++ (c.event? s i h).toList) ∧
      (c.step s h).1.Accords i (log ++ (c.event? s i h).toList) := by
  obtain ⟨spider, stage⟩ := c
  have quiet (hc : ∀ event ∈ log, event.party ≠ .start i) (r : Except EngineError String) :
      StartCall.Accords i ⟨spider, .done r⟩ log := by
    intro a x n hm
    exact absurd rfl (hc _ hm)
  cases stage with
  | asking =>
      simp only [event?, Option.toList_none, List.append_nil, step, nextStage, stepAsking]
      split
      · exact ⟨hh, quiet hc _⟩
      · exact ⟨hh, hc⟩
  | reading =>
      simp only [event?, Option.toList_none, List.append_nil, step, nextStage, stepReading]
      have hw := hh.quiet (.work h (readSpider spider))
      split <;> rename_i he <;> rw [he] at hw
      · exact ⟨hw, (StartCall.readSpider_eq_ok (congrArg Prod.fst he)).1, hc⟩
      · exact ⟨hw, quiet hc _⟩
  | registering d =>
      obtain ⟨hd, hc⟩ := hc
      have hx := hh.unused fresh
      simp only [event?, step, nextStage, stepRegistering]
      rw [show (h.newName s).2.registry = h.registry from rfl]
      cases hm : h.registry.register spider (h.newName s).1 with
      | none =>
          simp only [Option.map_none, Option.toList_none, List.append_nil]
          exact ⟨⟨hh.lawful, hh.reflects⟩, quiet hc _⟩
      | some r =>
          obtain ⟨n, r⟩ := r
          obtain ⟨hfree, hn, -⟩ := Registry.register_eq_some_iff.mp hm
          refine ⟨⟨hh.lawful.concat ⟨hc, fresh, ?_, ?_⟩, hh.reflects.register hm ⟨?_, ?_, ?_⟩⟩, hd,
            ?_, ?_⟩
          · intro j b y hy
            have := hh.reflects.number_lt j b y n hy
            omega
          · intro j y m hy
            rcases hh.reflects.live_or_freed j spider y m hy with ⟨g, hg, hs, -, -⟩ | hf
            · exact absurd hs (hfree g hg)
            · exact hf
          · rintro ⟨j, a, hm⟩
            exact hx _ hm rfl
          · rintro ⟨k, a, t, hm, ht⟩
            exact hx _ hm ht
          · rintro ⟨p, a, hm⟩
            exact hx _ hm rfl
          · simp
          · intro a y r hm
            replace hm : .begun i a y r ∈ log := by simpa using hm
            exact hc _ hm rfl
  | marking d x n =>
      obtain ⟨hd, hi, hb⟩ := hc
      have hlog (r : Bool) : Lawful (log ++ [.begun i d.id x r]) :=
        hh.lawful.concat ⟨⟨n, hd ▸ hi⟩, hb⟩
      have hw := Hub.Quiet.work (h.readClock s).2 (Work.session
        (Bookkeeping.markStarted (h.readClock s).1 ⟨d.id, d.name, x⟩))
      simp only [event?, step, nextStage, stepMarking]
      split <;> rename_i he <;> rw [he] at hw
      · refine ⟨⟨hlog true, ?_⟩, ?_⟩
        · rw [show _ = h.registry from hw.registry]
          exact hh.reflects.concat rfl
        · intro a y m hm
          replace hm : .registered i a y m ∈ log := by simpa using hm
          obtain ⟨rfl, rfl, rfl⟩ := hh.lawful.registered_of_start hm hi
          exact .inl (by simp [hd])
      · refine ⟨⟨hlog false, ?_⟩, ?_⟩
        · rw [show _ = h.registry from hw.registry]
          exact hh.reflects.concat rfl
        · simp [Accords, hd]
  | withdrawing x e =>
      have hb : .begun i spider x false ∈ log := hc
      obtain ⟨n, hn⟩ := hh.lawful.registered_of_begun hb
      refine ⟨hh.unregister fun hf => ⟨hf, hb⟩, ?_⟩
      intro a y m hm
      replace hm : .registered i a y m ∈ log := by
        cases hr : h.registry.remove spider x <;> simpa [event?, hr] using hm
      obtain ⟨rfl, rfl, rfl⟩ := hh.lawful.registered_of_start hm hn
      exact .inr ⟨List.mem_append_left _ hb, hh.freed_of_unregister hn⟩
  | done r => simpa [event?, step, nextStage] using ⟨hh, hc⟩

-- The run that a call leaves behind has just been entered; nobody has moved it.
theorem StartCall.step_run {c : StartCall} {r : Run} (hc : c.Accords i log)
    (hs : (c.step s h).2.1 = some r) (hj : ∀ event ∈ log, event.party ≠ .run j) :
    c.event? s i h = some (.begun i c.spider r.execution true) ∧
      r.Accords j (log ++ [.begun i c.spider r.execution true]) := by
  obtain ⟨spider, stage⟩ := c
  cases stage with
  | marking d x n =>
      obtain ⟨hd, hi, -⟩ := hc
      simp only [event?, hs, Option.isSome_some]
      simp only [step, nextStage, stepMarking] at hs
      split at hs
      · cases hs
        simp only at hd hi
        have hj' : ∀ event ∈ log ++ [.begun i spider x true], event.party ≠ .run j :=
          forall_concat hj (by simp [Event.party])
        refine ⟨by simp [newRun, hd], ⟨i, ?_, ?_⟩, ?_, ?_, hj'⟩
        · simp [newRun, hd, hi]
        · simp [newRun, hd]
        · intro event hm hp
          exact absurd hp (hj' event hm)
        · simp [newRun, RunStage.isStopping, RunStage.end?]
      · cases hs
  | _ => simp [step, nextStage] at hs

-- A start that is recorded leaves a run behind.
theorem StartCall.exists_run {c : StartCall} {a : Int} {x : String}
    (hb : .begun j a x true ∈ c.event? s i h) :
    ∃ r, (c.step s h).2.1 = some r ∧ r.execution = x := by
  obtain ⟨spider, stage⟩ := c
  cases stage with
  | marking d y n =>
      simp only [event?, Option.mem_def, Option.some.injEq, Event.begun.injEq] at hb
      obtain ⟨-, -, rfl, hsome⟩ := hb
      obtain ⟨r, hr⟩ := Option.isSome_iff_exists.mp hsome
      refine ⟨r, hr, ?_⟩
      simp only [step, nextStage, stepMarking] at hr
      split at hr
      · cases hr
        rfl
      · cases hr
  | registering d =>
      obtain ⟨r, hr, he⟩ := Option.map_eq_some_iff.mp hb
      cases he
  | withdrawing y e =>
      obtain ⟨r, hr, he⟩ := Option.map_eq_some_iff.mp hb
      cases he
  | _ => cases hb

-- ### Runs

theorem Run.stageAccords_of_isOpen {r : Run} (ho : r.stage.isOpen = true) :
    r.StageAccords j log ↔ (r.stage.isStopping = true → Granted log r.execution) ∧
      ∀ event ∈ log, event.party ≠ .run j := by
  obtain ⟨d, x, n, began, stage⟩ := r
  cases stage <;> first | exact Iff.rfl | cases ho

-- A signal to stop reaches only the run that a request was granted for.
theorem Run.Accords.granted_of_cancel {r : Run} (hh : h.Accords log) (hr : r.Accords j log)
    (hc : (r.signals h).cancel = true) : Granted log r.execution := by
  obtain ⟨i, hi, -⟩ := hr.begun
  obtain ⟨k, a, t, hg, ht⟩ := hh.reflects.justified.cancel _ hc
  obtain ⟨i', hi'⟩ := hh.lawful.registered_of_granted hg
  rw [ht] at hi'
  exact ⟨k, a, t, hg, hh.lawful.registered_of_number hi' hi⟩

theorem Run.step_sound_open {r : Run} (m : RunMove) (hh : h.Accords log) (hr : r.Accords j log)
    (ho : r.stage.isOpen = true) (he : ∀ e, r.stage ≠ .ended e) :
    (r.step s m h).2.Accords log ∧ (r.step s m h).1.Accords j log := by
  obtain ⟨hnext, hstop, hreg⟩ := Run.nextStage_open (s := s) (h := h) (g := id) m ho he
  obtain ⟨hgranted, hnone⟩ := (Run.stageAccords_of_isOpen ho).mp hr.stage
  refine ⟨?_, hr.begun, hr.own, (Run.stageAccords_of_isOpen hnext).mpr ⟨fun hs => ?_, hnone⟩⟩
  · rcases hreg with hreg | ⟨pid, hreg⟩
    · exact hh.quiet hreg.toQuiet
    · exact Hub.Accords.quiet ⟨hh.lawful, hh.reflects.attach _ _ pid⟩ hreg.toQuiet
  · exact (hstop hs).elim hgranted (hr.granted_of_cancel hh)

-- A run whose claim comes too late was freed already, or a request for it was granted.
theorem Run.Accords.claimed_before {r : Run} (hh : h.Accords log) (hr : r.Accords j log)
    (sole : ∀ i a, .claimed i a r.execution ∈ log → i = j)
    (hnone : ∀ event ∈ log, event.party ≠ .run j)
    (hm : h.registry.beginFinish r.spider.id r.execution = none) :
    Freed log r.execution ∨ Granted log r.execution := by
  obtain ⟨i, hi, -⟩ := hr.begun
  rcases hh.reflects.live_or_freed _ _ _ _ hi with ⟨g, hg, hs, hx, -⟩ | hf
  · have hp := Registry.beginFinish_eq_none hh.reflects.sole hm hg hs hx
    have hphase := hh.reflects.phase g hg
    rw [hx] at hphase
    cases hgp : g.phase with
    | running => exact absurd hgp hp
    | stopping =>
        rw [hgp] at hphase
        exact .inr hphase
    | finishing =>
        rw [hgp] at hphase
        obtain ⟨j', a, hc⟩ := hphase
        cases sole _ _ hc
        exact absurd rfl (hnone _ hc)
  · exact .inl hf

theorem Run.step_sound_ended {r : Run} {e : RunEnd} (m : RunMove) (hh : h.Accords log)
    (hr : r.Accords j log) (he : r.stage = .ended e)
    (sole : ∀ i a, .claimed i a r.execution ∈ log → i = j) :
    (r.step s m h).2.Accords (log ++ (r.event? j h).toList) ∧
      (r.step s m h).1.Accords j (log ++ (r.event? j h).toList) := by
  obtain ⟨hbegun, hown, hstage⟩ := id hr
  obtain ⟨hgranted, hnone⟩ := (Run.stageAccords_of_isOpen (by rw [he]; rfl)).mp hstage
  by_cases hs : e.isStopped = true
  · have hstop : e = .stopped := by cases e <;> first | rfl | cases hs
    subst hstop
    simp only [event?, step, nextStage, stepEnded, he, hs, ↓reduceIte, Option.toList_none,
      List.append_nil]
    exact ⟨hh, hbegun, hown, .inr ⟨hgranted (by rw [he]; rfl), hnone⟩⟩
  · have hstep : r.step s m h = (h.registry.beginFinish r.spider.id r.execution).elim
        ({ r with stage := .signing }, h)
        fun registry => ({ r with stage := .claimed e }, h.setRegistry registry) := by
      simp only [step, nextStage, stepEnded, he]
      cases e with
      | stopped => exact absurd rfl hs
      | exited o => cases h.registry.beginFinish r.spider.id r.execution <;> rfl
      | failed e => cases h.registry.beginFinish r.spider.id r.execution <;> rfl
    simp only [event?, he, hs, hstep, Bool.false_eq_true, ↓reduceIte]
    cases hm : h.registry.beginFinish r.spider.id r.execution with
    | none =>
        have hb := hr.claimed_before hh sole hnone hm
        refine ⟨by simpa using hh, ?_⟩
        simp
        exact ⟨hbegun, hown, hb.imp id fun hg => ⟨hg, hnone⟩⟩
    | some registry =>
        obtain ⟨g, hg, hgs, hgx, hgp, -⟩ := Registry.beginFinish_eq_some hh.reflects.sole hm
        have hphase := hh.reflects.phase g hg
        rw [hgp, hgx] at hphase
        obtain ⟨i, hi, hb⟩ := hbegun
        refine ⟨⟨hh.lawful.concat ⟨hnone, ⟨i, hb⟩, hphase⟩, hh.reflects.claim hh.lawful hm⟩, ?_⟩
        refine ⟨⟨i, List.mem_append_left _ hi, List.mem_append_left _ hb⟩, ?_, ?_, ?_, ?_⟩
        · intro event hev hp
          rcases List.mem_append.mp hev with hev | hev
          · exact absurd hp (hnone event hev)
          · cases List.mem_singleton.mp hev
            exact ⟨rfl, rfl⟩
        · simp
        · simpa using hs
        · intro a y f hev
          replace hev : .settled j a y f ∈ log := by simpa using hev
          exact hnone _ hev rfl

-- `sole` says that no other task works for the execution.
theorem Run.step_sound {r : Run} (m : RunMove) (hh : h.Accords log) (hr : r.Accords j log)
    (sole : ∀ i a, .claimed i a r.execution ∈ log → i = j) :
    (r.step s m h).2.Accords (log ++ (r.event? j h).toList) ∧
      (r.step s m h).1.Accords j (log ++ (r.event? j h).toList) := by
  obtain ⟨d, x, n, began, stage⟩ := r
  obtain ⟨⟨i, hi, hb⟩, hown, hstage⟩ := id hr
  cases stage with
  | ended e => exact Run.step_sound_ended m hh hr rfl sole
  | claimed e =>
      obtain ⟨hc, hs, hnone⟩ := hstage
      refine ⟨⟨hh.lawful.concat ⟨hc, hs, hnone⟩, hh.reflects.concat rfl⟩, ⟨i, ?_, ?_⟩, ?_, e, ?_⟩
      · exact List.mem_append_left _ hi
      · exact List.mem_append_left _ hb
      · intro event hev hp
        rcases List.mem_append.mp hev with hev | hev
        · exact hown event hev hp
        · cases List.mem_singleton.mp hev
          exact ⟨rfl, rfl⟩
      · exact List.mem_append_right _ (List.mem_singleton.mpr rfl)
  | leaving =>
      obtain ⟨e, he⟩ := hstage
      refine ⟨hh.unregister fun hf => ⟨hf, e, he⟩, ⟨i, ?_, ?_⟩, ?_, ?_⟩
      · exact List.mem_append_left _ hi
      · exact List.mem_append_left _ hb
      · intro event hev hp
        rcases List.mem_append.mp hev with hev | hev
        · exact hown event hev hp
        · obtain ⟨-, -, rfl⟩ := Option.map_eq_some_iff.mp (Option.mem_toList.mp hev)
          exact ⟨rfl, rfl⟩
      · exact .inl (hh.freed_of_unregister hi)
  | signing =>
      simp only [event?, Option.toList_none, List.append_nil]
      exact ⟨⟨hh.lawful, hh.reflects.finish hi ⟨i, _, hb⟩⟩, ⟨i, hi, hb⟩, hown, hstage⟩
  | done => simpa [event?, step, nextStage] using ⟨hh, hr⟩
  | _ =>
      simp only [event?, Option.toList_none, List.append_nil]
      exact Run.step_sound_open m hh hr rfl (by simp)

-- ### Stop calls

-- What a request is granted: the first one for a run that nobody has claimed is the initiator.
theorem Hub.Accords.allowed_of_beginStop {spider : Int} {t : StopTicket} {registry : Registry}
    (hh : h.Accords log) (hnone : ∀ event ∈ log, event.party ≠ .stop k)
    (hm : h.registry.beginStop spider = some (t, registry)) :
    Allowed log (.granted k spider t) := by
  obtain ⟨g, hg, rfl, hp, rfl, -⟩ := Registry.beginStop_eq_some hm
  have hphase := hh.reflects.phase g hg
  refine ⟨hnone, hh.reflects.registered g hg, ?_⟩
  cases hgp : g.phase with
  | running =>
      rw [hgp] at hphase
      exact ⟨hphase.1, by simpa using hphase.2⟩
  | stopping =>
      replace hphase : Granted log g.execution := by rwa [hgp] at hphase
      exact ⟨fun hc => hh.lawful.not_granted_of_claimed hc hphase, by simpa using hphase⟩
  | finishing => exact absurd hgp hp

-- Only the task of a run signals that its work is done.
theorem Hub.Accords.recorded_of_finished {spider : Int} {t : StopTicket} (hh : h.Accords log)
    (hg : .granted k spider t ∈ log) (hf : (h.registry.signalsOf t.number).finished = true) :
    Recorded log t.execution := by
  obtain ⟨i, a, x, hi, hx⟩ := hh.reflects.justified.finished _ hf
  obtain ⟨i', hi'⟩ := hh.lawful.registered_of_granted hg
  exact hh.lawful.registered_of_number hi hi' ▸ hx

theorem StopCall.step_sound {c : StopCall} (m : StopMove) (hh : h.Accords log)
    (hc : c.Accords k log) :
    (c.step s m h).2.Accords (log ++ (c.event? k m h).toList) ∧
      (c.step s m h).1.Accords k (log ++ (c.event? k m h).toList) := by
  obtain ⟨spider, stage⟩ := c
  cases stage with
  | asking =>
      simp only [event?, step, nextStage, stepAsking]
      cases hm : h.registry.beginStop spider with
      | none =>
          refine ⟨by simpa using hh, fun a t hg => ?_⟩
          exact absurd rfl (hc _ (by simpa using hg))
      | some granted =>
          obtain ⟨t, registry⟩ := granted
          have ha := hh.allowed_of_beginStop hc hm
          refine ⟨⟨hh.lawful.concat ha, hh.reflects.grant hh.lawful hm⟩, ?_⟩
          cases ht : t.initiator with
          | false => simp [Accords, ht]
          | true =>
              have hnone (a : Int) (y : String) : .stopped k a y ∉ log := fun hs => hc _ hs rfl
              simp [Accords, ht, hnone]
  | cancelling t =>
      simp only [event?, Option.toList_none, List.append_nil]
      exact ⟨⟨hh.lawful, hh.reflects.cancelled hc.1⟩, hc⟩
  | settling t =>
      obtain ⟨hg, ht, hnone⟩ := hc
      cases hf : (h.registry.signalsOf t.number).finished with
      | true =>
          have hx := hh.recorded_of_finished hg hf
          cases m <;> simpa [event?, step, nextStage, stepSettling, hf, Accords] using
            ⟨hh, hg, ht, hnone, .inl hx⟩
      | false =>
          cases m with
          | onward =>
              simpa [event?, step, nextStage, stepSettling, hf, Accords] using ⟨hh, hg, ht, hnone⟩
          | expire =>
              simp only [event?, step, nextStage, stepSettling, hf]
              refine ⟨⟨hh.lawful.concat ⟨hg, ht⟩, hh.reflects.concat rfl⟩, ?_, ht, ?_, ?_⟩
              · exact List.mem_append_left _ hg
              · simpa using hnone
              · by_cases hx : Recorded log t.execution
                · exact .inl (recorded_concat.mpr (.inl hx))
                · exact .inr ⟨log, [], k, spider, t, rfl, rfl, hx⟩
  | marking t =>
      obtain ⟨hg, ht, hnone, hx⟩ := hc
      refine ⟨⟨hh.lawful.concat ⟨⟨t, hg, ht, rfl⟩, hnone, hx⟩, hh.reflects.concat rfl⟩, ?_, ht, ?_⟩
      · exact List.mem_append_left _ hg
      · exact List.mem_append_right _ (List.mem_singleton.mpr rfl)
  | leaving t result =>
      obtain ⟨hg, ht, hs⟩ := hc
      obtain ⟨i, hi⟩ := hh.lawful.registered_of_granted hg
      refine ⟨hh.unregister fun hf => ⟨hf, hs⟩, fun a u hu _ => ?_⟩
      have hut : u = t := by
        rcases List.mem_append.mp hu with hu | hu
        · exact hh.lawful.granted_of_stop hu hg
        · obtain ⟨-, -, he⟩ := Option.map_eq_some_iff.mp (Option.mem_toList.mp hu)
          cases he
      rw [hut]
      exact hh.freed_of_unregister hi
  | following t =>
      obtain ⟨hg, ht⟩ := hc
      simp only [event?, Option.toList_none, List.append_nil, step, nextStage]
      refine ⟨hh, ?_⟩
      split
      · intro a u hu hut
        rw [hh.lawful.granted_of_stop hu hg, ht] at hut
        cases hut
      · exact ⟨hg, ht⟩
  | done r => simpa [event?, step, nextStage] using ⟨hh, hc⟩

end Spiderworks
