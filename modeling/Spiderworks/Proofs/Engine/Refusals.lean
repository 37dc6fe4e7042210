import Spiderworks.Engine.Schedule
import Spiderworks.Proofs.Engine.Admission

namespace Spiderworks

variable {s : Setup} {h k : Hub} {a : Int} {err : EngineError}

-- ### Starts

-- The steps of a start that nobody comes between.
def StartCall.steps (s : Setup) : Nat → StartCall → Hub → StartCall × Hub
  | 0, c, h => (c, h)
  | n + 1, c, h => steps s n (c.step s h).1 (c.step s h).2.2

theorem StartCall.steps_done (n : Nat) (r : Except EngineError String) (h : Hub) :
    steps s n ⟨a, .done r⟩ h = (⟨a, .done r⟩, h) := by
  induction n with
  | zero => rfl
  | succ n ih => exact ih

theorem Engine.perform_start {e : Engine} {i : Nat} {c : StartCall} (n : Nat)
    (hi : e.starts[i]? = some c) :
    (e.perform s (List.replicate n (.start i))).starts[i]? = some (c.steps s n e.hub).1 ∧
      (e.perform s (List.replicate n (.start i))).hub = (c.steps s n e.hub).2 := by
  induction n generalizing e c with
  | zero => exact ⟨hi, rfl⟩
  | succ n ih =>
      rw [List.replicate_succ, perform_cons]
      have hact : e.act s (.start i) = { e with
          hub := (c.step s e.hub).2.2
          starts := e.starts.set i (c.step s e.hub).1
          runs := e.runs ++ (c.step s e.hub).2.1.toList } := by
        simp only [act, moveStart, hi]
      rw [hact]
      refine ih (List.getElem?_set_self ?_)
      exact (List.getElem?_eq_some_iff.mp hi).1

-- A registration that was just made can be taken back.
theorem Hub.live_unregister {x : String} {r : Registry} {n : Nat}
    (hr : h.registry.register a x = some (n, r)) (hk : k.registry = r) :
    (k.unregister a x).registry.live = h.registry.live := by
  obtain ⟨hnot, -, rfl⟩ := Registry.register_eq_some_iff.mp hr
  have hfind : k.registry.find? a = some ⟨a, x, .running, none, n⟩ := by
    rw [hk, Registry.find?, List.find?_append, Option.or_eq_some_iff]
    refine .inr ⟨List.find?_eq_none.mpr fun g hg => ?_, by simp⟩
    simpa using hnot g hg
  have hremove : k.registry.remove a x = some (Registry.release { k.registry with
      live := k.registry.live.filter (·.spider != a) } n) := by
    rw [Registry.remove, Registry.own?, hfind]
    simp
  rw [Hub.unregister, hremove]
  change k.registry.live.filter (·.spider != a) = h.registry.live
  rw [hk, List.filter_append]
  simpa using hnot

-- Looking for the spider.
theorem StartCall.work_readSpider (h : Hub) (a : Int) :
    (h.work (readSpider a) = (.error (.storage .poisoned), h)) ∨
      h.site.shared.poisoned = false ∧ ∃ r, h.work (readSpider a) =
        (r, h.setShared { h.site.shared with asked := h.site.shared.asked + 1 }) := by
  rw [readSpider, Hub.work_bind]
  cases hp : h.site.shared.poisoned with
  | true =>
      rw [Hub.work_session_poisoned hp]
      exact .inl rfl
  | false =>
      obtain ⟨r, hr⟩ : ∃ r, h.site.shared.run (Session.spider? a) =
          (r, { h.site.shared with asked := h.site.shared.asked + 1 }) := by
        rw [Session.spider?_eq, SharedStore.run_look]
        exact ⟨_, rfl⟩
      rw [Hub.work_session_eq hp, hr]
      rcases r with e | _ | y
      · exact .inr ⟨rfl, _, rfl⟩
      · exact .inr ⟨rfl, _, rfl⟩
      · exact .inr ⟨rfl, _, rfl⟩

-- What an error of a start leaves of the store: the whole of it, or, when a later write of its
-- entry is refused, the store with the writes before that one.
inductive Hub.LeftByStart (s : Setup) (a : Int) (h : Hub) (err : EngineError) (after : Store) :
    Prop where
  | untouched (same : after = h.store)
  | uncounted (reason : String) (told : err = .storage (.refused reason))
      (refused : h.site.shared.refusal (h.site.shared.asked + 2) .countRun = some reason)
      (left : after = h.store.change a fun r => { r with status := Status.running.name })
  | unnoted (reason : String) (told : err = .storage (.refused reason))
      (refused : h.site.shared.refusal (h.site.shared.asked + 3) .appendLog = some reason)
      (left : after = h.store.change a (startEntry (s.clock h.readings)))

-- The last two steps: a write of the entry is refused, and the registration taken back.
theorem StartCall.steps_marking {d : Definition} {x : String} {n : Nat}
    (hp : k.site.shared.poisoned = false) (hid : k.has d.id = true)
    (herr : (steps s 2 ⟨d.id, .marking d x n⟩ k).1.result? = some (.error err)) :
    ∃ m w reason, (Bookkeeping.runStarted (s.clock k.readings) ⟨d.id, d.name, x⟩)[m]? = some w ∧
      k.site.shared.refusal (k.site.shared.asked + m) w.request = some reason ∧
      err = .storage (.refused reason) ∧
      (steps s 2 ⟨d.id, .marking d x n⟩ k).2 = ((k.readClock s).2.setShared { k.site.shared with
        asked := k.site.shared.asked + m + 1
        store := k.store.after ((Bookkeeping.runStarted (s.clock k.readings)
          ⟨d.id, d.name, x⟩).take m) }).unregister d.id x := by
  have hstep := StartCall.step_marking_eq (s := s) (c := ⟨d.id, .marking d x n⟩) rfl hp
  rw [steps] at herr ⊢
  rcases k.site.shared.grants_or_refused
    (Bookkeeping.runStarted (s.clock k.readings) ⟨d.id, d.name, x⟩) with
    hg | ⟨m, w, reason, hw, hg, hm⟩
  · rw [SharedStore.run_writes hid hg] at hstep
    rw [hstep] at herr
    cases herr
  · rw [SharedStore.run_writes_refused hid hw hg hm] at hstep
    rw [hstep] at herr ⊢
    cases herr
    exact ⟨m, w, reason, hw, hm, rfl, rfl⟩

theorem StartCall.steps_registering {d : Definition} (hp : k.site.shared.poisoned = false)
    (hid : k.has d.id = true) (hnot : k.registry.contains d.id = false)
    (herr : (steps s 3 ⟨d.id, .registering d⟩ k).1.result? = some (.error err)) :
    (steps s 3 ⟨d.id, .registering d⟩ k).2.registry.live = k.registry.live ∧
      (steps s 3 ⟨d.id, .registering d⟩ k).2.site.disk = k.site.disk ∧
      ∃ m w reason, (Bookkeeping.runStarted (s.clock k.readings)
          ⟨d.id, d.name, s.names k.named⟩)[m]? = some w ∧
        k.site.shared.refusal (k.site.shared.asked + m) w.request = some reason ∧
        err = .storage (.refused reason) ∧ (steps s 3 ⟨d.id, .registering d⟩ k).2.store =
          k.store.after ((Bookkeeping.runStarted (s.clock k.readings)
            ⟨d.id, d.name, s.names k.named⟩).take m) := by
  obtain ⟨n, r, hr⟩ : ∃ n r, k.registry.register d.id (s.names k.named) = some (n, r) :=
    ⟨_, _, Registry.register_eq_some_iff.mpr
      ⟨Registry.contains_eq_false_iff.mp hnot, rfl, rfl⟩⟩
  have hstep : step s ⟨d.id, .registering d⟩ k =
      (⟨d.id, .marking d (s.names k.named) n⟩, none, (k.newName s).2.setRegistry r) := by
    simp only [step, nextStage, stepRegistering]
    rw [show k.newName s = (s.names k.named, (k.newName s).2) from rfl]
    dsimp only
    rw [show (k.newName s).2.registry = k.registry from rfl, hr]
  rw [steps, hstep] at herr ⊢
  obtain ⟨m, w, reason, hw, hm, rfl, hleft⟩ := steps_marking (k := (k.newName s).2.setRegistry r)
    hp hid herr
  rw [hleft]
  refine ⟨Hub.live_unregister hr rfl, ?_, m, w, reason, hw, hm, rfl, ?_⟩
  · rw [Hub.unregister]
    split <;> rfl
  · rw [Hub.unregister]
    split <;> rfl

theorem StartCall.steps_reading (hnot : h.registry.contains a = false)
    (herr : (steps s 4 ⟨a, .reading⟩ h).1.result? = some (.error err)) :
    (steps s 4 ⟨a, .reading⟩ h).2.registry.live = h.registry.live ∧
      (steps s 4 ⟨a, .reading⟩ h).2.site.disk = h.site.disk ∧
      h.LeftByStart s a err (steps s 4 ⟨a, .reading⟩ h).2.store := by
  rw [steps] at herr ⊢
  rcases work_readSpider h a with hwork | ⟨hp, r, hwork⟩
  · have hstep : step s ⟨a, .reading⟩ h = (⟨a, .done (.error (.storage .poisoned))⟩, none, h) := by
      simp only [step, nextStage, stepReading, hwork]
    rw [hstep, steps_done]
    exact ⟨rfl, rfl, .untouched rfl⟩
  · let k := h.setShared { h.site.shared with asked := h.site.shared.asked + 1 }
    cases r with
    | error e =>
        have hstep : step s ⟨a, .reading⟩ h = (⟨a, .done (.error e)⟩, none, k) := by
          simp only [step, nextStage, stepReading, hwork, k]
        rw [hstep, steps_done]
        exact ⟨rfl, rfl, .untouched rfl⟩
    | ok d =>
        obtain ⟨rfl, hid⟩ := readSpider_eq_ok (congrArg Prod.fst hwork)
        have hstep : step s ⟨d.id, .reading⟩ h = (⟨d.id, .registering d⟩, none, k) := by
          simp only [step, nextStage, stepReading, hwork, k]
        rw [hstep] at herr ⊢
        obtain ⟨hlive, hdisk, m, w, reason, hw, hm, rfl, hstore⟩ :=
          steps_registering (k := k) hp hid hnot herr
        refine ⟨hlive, hdisk, ?_⟩
        rw [hstore]
        -- the first write that is refused leaves nothing, the others leave those before them
        rcases m with _ | _ | _ | m
        · exact .untouched rfl
        · cases hw
          exact .uncounted reason rfl hm rfl
        · cases hw
          exact .unnoted reason rfl hm (Bookkeeping.after_runStarted_two _ ⟨d.id, _, _⟩ h.store)
        · cases hw

theorem StartCall.steps_asking (herr : (steps s 5 ⟨a, .asking⟩ h).1.result? = some (.error err)) :
    (steps s 5 ⟨a, .asking⟩ h).2.registry.live = h.registry.live ∧
      (steps s 5 ⟨a, .asking⟩ h).2.site.disk = h.site.disk ∧
      h.LeftByStart s a err (steps s 5 ⟨a, .asking⟩ h).2.store := by
  rw [steps] at herr ⊢
  cases hasking : h.registry.contains a with
  | true =>
      have hstep : step s ⟨a, .asking⟩ h = (⟨a, .done (.error (.alreadyRunning a))⟩, none, h) := by
        simp only [step, nextStage, stepAsking, hasking, ↓reduceIte]
      rw [hstep, steps_done]
      exact ⟨rfl, rfl, .untouched rfl⟩
  | false =>
      have hstep : step s ⟨a, .asking⟩ h = (⟨a, .reading⟩, none, h) := by
        simp only [step, nextStage, stepAsking, hasking, Bool.false_eq_true, ↓reduceIte]
      rw [hstep] at herr ⊢
      exact steps_reading hasking herr

-- ### Direct calls

-- The same for a call: only the line that it has started may stay behind.
inductive Hub.LeftByCall (s : Setup) (c : DirectCall) (h : Hub) (err : EngineError)
    (after : Store) : Prop where
  | untouched (same : after = h.store)
  | uncounted (reason : String) (y : Spider) (told : err = .storage (.refused reason))
      (refused : h.site.shared.refusal (h.site.shared.asked + 3) .countRun = some reason)
      (found : h.store.spider? c.spider = .ok (some y))
      (left : after = h.store.logged (s.clock h.readings)
        (Bookkeeping.line ⟨c.spider, y.name, c.execution⟩ .info .apiCall
          ("Direct call started for spider " ++ Bookkeeping.quoted y.name)))

-- A call that was let in is not answered by an error any more.
def DirectStage.isLetIn : DirectStage → Bool
  | .admitting => false
  | .done r => r.isOk
  | _ => true

theorem DirectCall.step_admitting_stage {c : DirectCall} (m : DirectMove)
    (hc : c.stage = .admitting) :
    (c.step s m h).1.stage.isLetIn = true ∨ ∃ e, (c.step s m h).1.stage = .done (.error e) := by
  rcases DirectCall.step_admitting (s := s) (h := h) m hc with
    ⟨e, asked, hstep⟩ | ⟨y, -, -, -, hstep⟩
  · exact .inr ⟨e, by rw [hstep]⟩
  · rw [hstep]
    split
    · exact .inl rfl
    · exact .inr ⟨_, rfl⟩

theorem DirectCall.step_error {c : DirectCall} {m : DirectMove} (hc : c.stage = .admitting)
    (herr : (c.step s m h).1.result? = some (.error err)) :
    (c.step s m h).2.registry = h.registry ∧ (c.step s m h).2.site.disk = h.site.disk ∧
      h.LeftByCall s c err (c.step s m h).2.store := by
  rcases DirectCall.step_admitting (s := s) (h := h) m hc with
    ⟨e, asked, hstep⟩ | ⟨y, hp, hy, -, hstep⟩
  · rw [hstep]
    exact ⟨rfl, rfl, .untouched rfl⟩
  · have hid : (SharedStore.store { h.site.shared with
        asked := h.site.shared.asked + 2 }).has c.spider = true := (Store.spider?_eq_some hy).2
    rcases SharedStore.grants_or_refused { h.site.shared with asked := h.site.shared.asked + 2 }
      (Bookkeeping.callStarted (s.clock h.readings) (s.clock (h.readings + 1))
        ⟨c.spider, y.name, c.execution⟩) with hg | ⟨m, w, reason, hw, hg, hm⟩
    · rw [SharedStore.run_writes hid hg] at hstep
      rw [hstep] at herr
      cases herr
    · rw [SharedStore.run_writes_refused hid hw hg hm] at hstep
      rw [hstep] at herr ⊢
      cases herr
      refine ⟨rfl, rfl, ?_⟩
      rcases m with _ | _ | m
      · exact .untouched rfl
      · cases hw
        exact .uncounted reason y rfl hm hy rfl
      · cases hw

theorem DirectCall.step_letIn {c : DirectCall} (m : DirectMove) (hc : c.stage.isLetIn = true) :
    (c.step s m h).1.stage.isLetIn = true := by
  obtain ⟨spider, code, x, began, stage⟩ := c
  cases stage with
  | admitting => cases hc
  | preparing d =>
      simp only [step, nextStage, stepPreparing]
      split <;> rfl
  | prepared d p =>
      simp only [step, nextStage, stepPrepared]
      split <;> rfl
  | watching d p child => rfl
  | recording d o => rfl
  | done r => exact hc

namespace Engine

variable {e e' : Engine} {i : Nat}

def LetIn (e : Engine) (i : Nat) : Prop := ∃ c, e.calls[i]? = some c ∧ c.stage.isLetIn = true

theorem LetIn.act (h : e.LetIn i) (action : Action) : (e.act s action).LetIn i := by
  obtain ⟨c, hi, hc⟩ := h
  cases action with
  | askCall spider code =>
      refine ⟨c, ?_, hc⟩
      exact (List.getElem?_append_left (List.getElem?_eq_some_iff.mp hi).1).trans hi
  | start j =>
      simp only [Engine.act, moveStart]
      split <;> exact ⟨c, hi, hc⟩
  | run j m =>
      simp only [Engine.act, moveRun]
      split <;> exact ⟨c, hi, hc⟩
  | stop j m =>
      simp only [Engine.act, moveStop]
      split <;> exact ⟨c, hi, hc⟩
  | call j m =>
      simp only [Engine.act, moveCall]
      split
      · exact ⟨c, hi, hc⟩
      · rename_i c' hj
        by_cases hij : j = i
        · subst hij
          cases hj.symm.trans hi
          refine ⟨(c.step s m e.hub).1, ?_, DirectCall.step_letIn m hc⟩
          exact List.getElem?_set_self (List.getElem?_eq_some_iff.mp hi).1
        · exact ⟨c, (List.getElem?_set_ne hij).trans hi, hc⟩
  | _ => exact ⟨c, hi, hc⟩

theorem LetIn.perform (h : e.LetIn i) (actions : List Action) : (e.perform s actions).LetIn i := by
  induction actions generalizing e with
  | nil => exact h
  | cons action rest ih => exact ih (h.act action)

theorem LetIn.callResult_ne (h : e.LetIn i) : callResult e i ≠ some (.error err) := by
  obtain ⟨c, hi, hc⟩ := h
  obtain ⟨spider, code, x, began, stage⟩ := c
  rw [callResult, hi, Option.bind_some]
  cases stage with
  | done r =>
      intro hr
      cases hr
      cases hc
  | _ => exact nofun

-- ### Turns

-- Everything that turns do is an interleaving.
def Reaches (s : Setup) (e e' : Engine) : Prop := ∃ actions, e' = e.perform s actions

theorem Reaches.trans {e'' : Engine} (h : e.Reaches s e') (h' : e'.Reaches s e'') :
    e.Reaches s e'' := by
  obtain ⟨before, rfl⟩ := h
  obtain ⟨after, rfl⟩ := h'
  exact ⟨before ++ after, (perform_append e before after).symm⟩

theorem reaches_runRound (s : Setup) (e : Engine) : e.Reaches s (e.runRound s) := by
  unfold runRound
  induction List.range e.runs.length generalizing e with
  | nil => exact ⟨[], rfl⟩
  | cons j rest ih =>
      have hturn : e.Reaches s (e.turnOfRunAt s j) := by
        unfold turnOfRunAt
        split
        · exact ⟨_, rfl⟩
        · exact ⟨[], rfl⟩
      exact hturn.trans (ih _)

theorem reaches_round (s : Setup) (e : Engine) : e.Reaches s (e.round s) :=
  (((reaches_runRound s e).trans ⟨_, rfl⟩).trans ⟨_, rfl⟩).trans ⟨_, rfl⟩

theorem reaches_turns (s : Setup) (goal : Engine → Bool) (n : Nat) (e : Engine) :
    e.Reaches s (turns s goal n e) := by
  induction n generalizing e with
  | zero => exact ⟨[], rfl⟩
  | succ n ih =>
      unfold turns
      split
      · exact ⟨[], rfl⟩
      · exact (reaches_round s e).trans (ih _)

theorem turnsUntil_of_goal {goal : Engine → Bool} (h : goal e = true) :
    e.turnsUntil s goal = e := by
  rw [turnsUntil, patience, turns, h]
  rfl

-- ### Answers

theorem start_error (h : (e.start s a).1 = some (.error err)) :
    (e.start s a).2.hub.registry.live = e.hub.registry.live ∧
      (e.start s a).2.hub.site.disk = e.hub.site.disk ∧
      e.hub.LeftByStart s a err (e.start s a).2.hub.store := by
  have hlast : (e.askStart a).starts[e.starts.length]? = some ⟨a, .asking⟩ := by
    simp [askStart]
  obtain ⟨hget, hhub⟩ := perform_start (s := s) 5 hlast
  simp only [start, hget, Option.bind_some] at h
  rw [show (e.start s a).2.hub = _ from hhub]
  exact StartCall.steps_asking h

-- The call that a request makes, as it is asked.
def newCall (s : Setup) (e : Engine) (a : Int) (code : Option String) : DirectCall :=
  ⟨a, code, s.names e.hub.named, s.clock e.hub.readings, .admitting⟩

theorem calls_askCall (s : Setup) (e : Engine) (a : Int) (code : Option String) :
    (e.askCall s a code).calls[e.calls.length]? = some (e.newCall s a code) := by
  simp [askCall, newCall, Hub.readClock, Hub.newName]

-- A call that is answered by an error is answered at its first step: nobody else takes a turn.
theorem call_of_error {code : Option String} (h : (e.call s a code).1 = some (.error err)) :
    ((e.newCall s a code).step s .onward (e.askCall s a code).hub).1.result? =
        some (.error err) ∧
      (e.call s a code).2 = (e.askCall s a code).moveCall s e.calls.length .onward := by
  have hlast := calls_askCall s e a code
  have hmoved : ((e.askCall s a code).moveCall s e.calls.length .onward).calls[e.calls.length]? =
      some ((e.newCall s a code).step s .onward (e.askCall s a code).hub).1 := by
    simp only [moveCall, hlast]
    exact List.getElem?_set_self (List.getElem?_eq_some_iff.mp hlast).1
  generalize hfirst : (e.askCall s a code).moveCall s e.calls.length .onward = first at hmoved ⊢
  have hcall : e.call s a code = (callResult (first.turnsUntil s fun e' =>
      (callResult e' e.calls.length).isSome) e.calls.length, first.turnsUntil s fun e' =>
      (callResult e' e.calls.length).isSome) := by
    rw [← hfirst]
    rfl
  rw [hcall] at h ⊢
  rcases DirectCall.step_admitting_stage (s := s) (h := (e.askCall s a code).hub)
    (c := e.newCall s a code) .onward rfl with hin | ⟨f, hf⟩
  · obtain ⟨actions, hturns⟩ := reaches_turns s
      (fun e' => (callResult e' e.calls.length).isSome) patience first
    rw [show first.turnsUntil s _ = _ from hturns] at h
    exact absurd h (LetIn.perform ⟨_, hmoved, hin⟩ actions).callResult_ne
  · have hresult : callResult first e.calls.length = some (.error f) := by
      rw [callResult, hmoved, Option.bind_some, DirectCall.result?, hf]
    rw [turnsUntil_of_goal (by rw [hresult]; rfl)] at h ⊢
    cases hresult.symm.trans h
    exact ⟨by rw [DirectCall.result?, hf], rfl⟩

theorem call_error {code : Option String} (h : (e.call s a code).1 = some (.error err)) :
    (e.call s a code).2.hub.registry = e.hub.registry ∧
      (e.call s a code).2.hub.site.disk = e.hub.site.disk ∧
      (e.askCall s a code).hub.LeftByCall s (e.newCall s a code) err
        (e.call s a code).2.hub.store := by
  obtain ⟨herr, hlast⟩ := call_of_error h
  rw [hlast]
  simp only [moveCall, calls_askCall]
  exact DirectCall.step_error rfl herr

-- What is left behind by answers that are errors.
structure ErrorsLeave (s : Setup) (e : Engine) (a : Int) (code : Option String) : Prop where
  start : ∀ err, (e.start s a).1 = some (.error err) →
    (e.start s a).2.hub.registry.live = e.hub.registry.live ∧
      (e.start s a).2.hub.site.disk = e.hub.site.disk ∧
      e.hub.LeftByStart s a err (e.start s a).2.hub.store
  call : ∀ err, (e.call s a code).1 = some (.error err) →
    (e.call s a code).2.hub.registry = e.hub.registry ∧
      (e.call s a code).2.hub.site.disk = e.hub.site.disk ∧
      (e.askCall s a code).hub.LeftByCall s (e.newCall s a code) err
        (e.call s a code).2.hub.store

-- Only a refusal in the midst of an entry leaves anything in the store: the status `running` of a
-- run that does not exist, its count, or the line of a call that was not let in.
theorem errors_leave (s : Setup) (e : Engine) (a : Int) (code : Option String) :
    e.ErrorsLeave s a code :=
  ⟨fun _ => start_error, fun _ => call_error⟩

end Engine

-- The store refuses the fourth request: the last of the entry of a start, and of a call.
def Site.refusingFourth : Site :=
  { Site.small with
    shared := { Site.small.shared with
      refusal := fun n _ => if n = 3 then some "disk I/O error" else none } }

-- So it does happen: the spider is `running` and has a run more, with no run there, and the log
-- tells of a call that was never let in.
theorem Engine.unnoted_start_refusing :
    ((ofSite Site.refusingFourth).start Setup.small 1).1 =
      some (.error (.storage (.refused "disk I/O error"))) ∧
    ((ofSite Site.refusingFourth).start Setup.small 1).2.hub.registry.live = [] ∧
    (ofSite Site.refusingFourth).hub.rows.map (fun r => (r.status, r.runs)) =
      [("inactive", 0)] ∧
    ((ofSite Site.refusingFourth).start Setup.small 1).2.hub.rows.map
      (fun r => (r.status, r.runs)) = [("running", 1)] ∧
    ((ofSite Site.refusingFourth).call Setup.small 1 none).1.map (fun r => r.isOk) = some false ∧
    (ofSite Site.refusingFourth).hub.store.logs = [] ∧
    ((ofSite Site.refusingFourth).call Setup.small 1 none).2.hub.store.logs.map (·.message) =
      ["Direct call started for spider \"one\""] :=
  ⟨rfl, rfl, rfl, rfl, rfl, rfl, rfl⟩

end Spiderworks
