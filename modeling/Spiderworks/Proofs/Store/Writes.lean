import Spiderworks.Proofs.Store.Requests

namespace Spiderworks

-- A write fails on a store without its spider, and leaves every spider where it is.
structure Write where
  request : Request
  make : Store → Store
  missing : StoreError
  has_make : ∀ s a, (make s).has a = s.has a

theorem Store.has_change {f : SpiderRow → SpiderRow} (hf : ∀ r, (f r).id = r.id) (s : Store)
    (a b : Int) : (s.change a f).has b = s.has b := by
  rw [Bool.eq_iff_iff, has_iff, has_iff]
  exact iff_of_eq (congrArg (b ∈ ·) (Store.rewrite_ids hf s.spiders))

theorem Store.change_change {f g : SpiderRow → SpiderRow} (hf : ∀ r, (f r).id = r.id) (s : Store)
    (a : Int) : (s.change a f).change a g = s.change a fun r => g (f r) :=
  congrArg (fun rows => { s with spiders := rows }) (Store.rewrite_rewrite hf s.spiders)

namespace Write

def change (a : Int) (w : Write) (s : Store) : Except StoreError Store :=
  if s.has a then .ok (w.make s) else .error w.missing

def ofRow (r : Request) (a : Int) (f : SpiderRow → SpiderRow) (hf : ∀ r, (f r).id = r.id) :
    Write where
  request := r
  make s := s.change a f
  missing := .unknownSpider a
  has_make s b := Store.has_change hf s a b

def setStatus (a : Int) (status : Status) : Write :=
  .ofRow .setStatus a (fun r => { r with status := status.name }) fun _ => rfl

def countRun (now : Time.Instant) (a : Int) : Write :=
  .ofRow .countRun a (fun r =>
    { r with runs := bump r.runs, lastRun := some (String.ofList now.rfc3339) }) fun _ => rfl

def countSuccess (a : Int) : Write :=
  .ofRow .countSuccess a (fun r => { r with successes := bump r.successes }) fun _ => rfl

def countError (a : Int) : Write :=
  .ofRow .countError a (fun r => { r with errors := bump r.errors }) fun _ => rfl

end Write

-- A log with one more row.
def Store.logged (now : Time.Instant) (n : NewLog) (s : Store) : Store :=
  { s with
    logs := s.logs ++ [⟨s.lastLog + 1, n.spider, n.level.name, some n.source.name, n.message,
      n.execution, now⟩]
    lastLog := s.lastLog + 1 }

theorem Store.appendLog_eq {s : Store} {n : NewLog} (now : Time.Instant)
    (hid : s.has n.spider = true) :
    s.appendLog now n = .ok (s.lastLog + 1, s.logged now n) := by
  rw [appendLog, if_pos hid]
  rfl

def Write.appendLog (now : Time.Instant) (n : NewLog) : Write where
  request := .appendLog
  make := Store.logged now n
  missing := .noSuchOwner
  has_make _ _ := rfl

def Session.writes (a : Int) : List Write → Session Unit
  | [] => return ()
  | w :: rest => do
    tell w.request (w.change a)
    writes a rest

namespace Session

theorem setStatus_eq_tell (a : Int) (status : Status) : setStatus a status =
    tell (Write.setStatus a status).request ((Write.setStatus a status).change a) :=
  setStatus_eq a status

theorem countRun_eq_tell (now : Time.Instant) (a : Int) : countRun now a =
    tell (Write.countRun now a).request ((Write.countRun now a).change a) := countRun_eq now a

theorem countSuccess_eq_tell (a : Int) : countSuccess a =
    tell (Write.countSuccess a).request ((Write.countSuccess a).change a) := countSuccess_eq a

theorem countError_eq_tell (a : Int) : countError a =
    tell (Write.countError a).request ((Write.countError a).change a) := countError_eq a

end Session

theorem Session.writes_singleton (a : Int) (w : Write) :
    writes a [w] = tell w.request (w.change a) := bind_pure_unit

theorem Session.writes_append (a : Int) (ws vs : List Write) :
    writes a (ws ++ vs) = (do writes a ws; writes a vs) := by
  induction ws with
  | nil => simp [writes]
  | cons w rest ih => simp [writes, ih]

-- What the writes make of a store.
def Store.after (s : Store) (ws : List Write) : Store := ws.foldl (fun s w => w.make s) s

-- None of the writes is refused.
def SharedStore.Grants (s : SharedStore) (ws : List Write) : Prop :=
  ∀ n w, ws[n]? = some w → s.refusal (s.asked + n) w.request = none

variable {a : Int} {w : Write} {ws : List Write} {s : SharedStore} {n : Nat} {reason : String}

namespace SharedStore

theorem Willing.grants (hs : s.Willing) (ws : List Write) : s.Grants ws :=
  fun _ _ _ => hs.refusal _ _

theorem grants_cons : s.Grants (w :: ws) ↔ s.refusal s.asked w.request = none ∧
    SharedStore.Grants { s with asked := s.asked + 1 } ws := by
  constructor
  · intro h
    refine ⟨h 0 w rfl, fun n v hv => ?_⟩
    rw [Nat.add_right_comm]
    exact h (n + 1) v hv
  · rintro ⟨hw, h⟩ n v hv
    cases n with
    | zero =>
        cases hv
        exact hw
    | succ n =>
        have hn := h n v hv
        rwa [Nat.add_right_comm] at hn

-- Either nothing is refused, or there is a first write that is.
theorem grants_or_refused (s : SharedStore) (ws : List Write) :
    s.Grants ws ∨ ∃ n w reason, ws[n]? = some w ∧ s.Grants (ws.take n) ∧
      s.refusal (s.asked + n) w.request = some reason := by
  induction ws generalizing s with
  | nil => exact .inl nofun
  | cons v rest ih =>
      cases hv : s.refusal s.asked v.request with
      | some reason => exact .inr ⟨0, v, reason, rfl, nofun, hv⟩
      | none =>
          rcases ih { s with asked := s.asked + 1 } with h | ⟨n, w, reason, hw, hg, hr⟩
          · exact .inl (grants_cons.mpr ⟨hv, h⟩)
          · refine .inr ⟨n + 1, w, reason, hw, grants_cons.mpr ⟨hv, hg⟩, ?_⟩
            rwa [Nat.add_right_comm] at hr

theorem run_tell_write (hid : s.store.has a = true) (hw : s.refusal s.asked w.request = none) :
    s.run (Session.tell w.request (w.change a)) =
      (.ok (), { s with asked := s.asked + 1, store := w.make s.store }) := by
  rw [Session.tell, run_attempt, hw]
  simp only [Write.change, hid, ↓reduceIte, Except.map]

theorem run_writes (hid : s.store.has a = true) (hg : s.Grants ws) :
    s.run (Session.writes a ws) =
      (.ok (), { s with asked := s.asked + ws.length, store := s.store.after ws }) := by
  induction ws generalizing s with
  | nil => rfl
  | cons w rest ih =>
      obtain ⟨hw, hg⟩ := grants_cons.mp hg
      rw [Session.writes, run_bind, run_tell_write hid hw]
      have hnext := ih (s := { s with asked := s.asked + 1, store := w.make s.store })
        ((w.has_make s.store a).trans hid) hg
      rw [List.length_cons, Nat.add_comm rest.length, ← Nat.add_assoc]
      exact hnext

theorem run_writes_refused (hid : s.store.has a = true) (hw : ws[n]? = some w)
    (hg : s.Grants (ws.take n)) (hr : s.refusal (s.asked + n) w.request = some reason) :
    s.run (Session.writes a ws) = (.error (.refused reason),
      { s with asked := s.asked + n + 1, store := s.store.after (ws.take n) }) := by
  induction ws generalizing s n with
  | nil => cases hw
  | cons v rest ih =>
      cases n with
      | zero =>
          cases hw
          rw [Session.writes, run_bind, Session.tell, run_attempt]
          simp only [Nat.add_zero] at hr
          simp only [hr]
          rfl
      | succ n =>
          obtain ⟨hv, hg⟩ := grants_cons.mp hg
          rw [Session.writes, run_bind, run_tell_write hid hv]
          have hnext := ih (s := { s with asked := s.asked + 1, store := v.make s.store })
            ((v.has_make s.store a).trans hid) hw hg (by rwa [Nat.add_right_comm])
          rw [← Nat.add_assoc, Nat.add_right_comm s.asked n 1]
          exact hnext

theorem run_writes_absent (hid : s.store.has a = false) (hws : ws ≠ []) :
    ∃ e, s.run (Session.writes a ws) = (.error e, { s with asked := s.asked + 1 }) := by
  obtain ⟨w, rest, rfl⟩ := List.exists_cons_of_ne_nil hws
  rw [Session.writes, run_bind, Session.tell, run_attempt]
  cases s.refusal s.asked w.request with
  | some reason => exact ⟨_, rfl⟩
  | none =>
      simp only [Write.change, hid]
      exact ⟨_, rfl⟩

-- Whatever becomes of it, an entry has made some first of its writes, and all of them when it
-- succeeds.
theorem run_writes_prefix (s : SharedStore) (a : Int) (ws : List Write) :
    ∃ r t n, s.run (Session.writes a ws) = (r, t) ∧ t.store = s.store.after (ws.take n) ∧
      (r = .ok () → ws.take n = ws) := by
  cases hid : s.store.has a with
  | true =>
      rcases s.grants_or_refused ws with hg | ⟨n, w, reason, hw, hg, hr⟩
      · refine ⟨_, _, ws.length, run_writes hid hg, ?_, fun _ => List.take_length⟩
        rw [List.take_length]
      · exact ⟨_, _, n, run_writes_refused hid hw hg hr, rfl, nofun⟩
  | false =>
      by_cases hws : ws = []
      · exact ⟨_, s, 0, by rw [hws]; rfl, rfl, fun _ => hws.symm⟩
      · obtain ⟨e, he⟩ := run_writes_absent hid hws
        exact ⟨_, _, 0, he, rfl, nofun⟩

end SharedStore

-- ### Entries

namespace Bookkeeping

variable (now later : Time.Instant) (x : Subject)

-- A line of the log about an execution.
def line (x : Subject) (level : LogLevel) (source : LogSource) (message : String) : NewLog :=
  ⟨x.spider, level, source, message, some x.execution⟩

theorem note_eq (level : LogLevel) (source : LogSource) (message : String) :
    note now x level source message =
      Session.writes x.spider [.appendLog now (line x level source message)] := by
  funext s
  change s.run _ = s.run _
  simp only [Session.writes, Session.tell, SharedStore.run_bind, SharedStore.run_attempt,
    Write.appendLog, Session.appendLog_eq]
  cases s.refusal s.asked .appendLog with
  | some reason => rfl
  | none =>
      cases hid : s.store.has x.spider <;>
        simp [Store.appendLog, Write.change, Store.logged, line, hid, Except.map]

def runStarted : List Write :=
  [.setStatus x.spider .running, .countRun now x.spider,
    .appendLog now (line x .info .spiderRunner
      ("Spider " ++ quoted x.name ++ " started with execution ID: " ++ x.execution))]

def callStarted : List Write :=
  [.appendLog now (line x .info .apiCall ("Direct call started for spider " ++ quoted x.name)),
    .countRun later x.spider]

def callEnded (r : DirectResult) (nanos : Nat) : List Write :=
  [.appendLog now (line x (if r.success then .info else .error) .apiCall (outcomeMessage r nanos)),
    if r.success then .countSuccess x.spider else .countError x.spider]

theorem markStarted_eq : markStarted now x = Session.writes x.spider (runStarted now x) := by
  rw [markStarted, note_eq, Session.setStatus_eq_tell, Session.countRun_eq_tell]
  rfl

theorem callStarted_eq : Session.writes x.spider (callStarted now later x) = (do
    note now x .info .apiCall ("Direct call started for spider " ++ quoted x.name)
    Session.countRun later x.spider) := by
  have counted := Session.writes_singleton x.spider (.countRun later x.spider)
  rw [callStarted, note_eq]
  exact (Session.writes_append x.spider [_] [_]).trans
    (by rw [counted, Session.countRun_eq_tell])

theorem recordOutcome_eq (r : DirectResult) (nanos : Nat) :
    recordOutcome now x r nanos = Session.writes x.spider (callEnded now x r nanos) := by
  rw [recordOutcome, callEnded, note_eq]
  refine Eq.trans ?_ (Session.writes_append x.spider [_] [_]).symm
  rw [Session.writes_singleton x.spider (if r.success then _ else _)]
  cases r.success
  · simp only [Bool.false_eq_true, ↓reduceIte, Session.countError_eq_tell]
  · simp only [↓reduceIte, Session.countSuccess_eq_tell]

-- ### Calls that ask to be let in

variable (minutes : Nat) {spider : Int} (execution : String) {y : Spider}

-- What is asked of a spider that is there.
theorem letIn_found (hy : s.store.spider? spider = .ok (some y))
    (hspider : s.refusal s.asked .spider = none)
    (hsetting : s.refusal (s.asked + 1) .setting = none) :
    s.run (letIn now later minutes spider execution) =
      match RateLimit.check y.lastRun
        (RateLimit.intervalOf (s.store.setting? RateLimit.settingKey) minutes) now with
      | .deny remaining next =>
        (.ok (.error (.rateLimited spider remaining next
          (RateLimit.intervalOf (s.store.setting? RateLimit.settingKey) minutes))),
          { s with asked := s.asked + 2 })
      | .allow =>
        match SharedStore.run { s with asked := s.asked + 2 }
          (Session.writes spider (callStarted now later ⟨spider, y.name, execution⟩)) with
        | (.ok _, t) => (.ok (.ok y.definition), t)
        | (.error e, t) => (.error e, t) := by
  rw [letIn, SharedStore.run_bind, Session.spider?_eq, SharedStore.run_look, hspider, hy]
  simp only [SharedStore.run_bind, Session.setting?_eq, SharedStore.run_look, hsetting]
  cases RateLimit.check y.lastRun
      (RateLimit.intervalOf (s.store.setting? RateLimit.settingKey) minutes) now with
  | deny remaining next => rfl
  | allow =>
      rw [callStarted_eq now later ⟨spider, y.name, execution⟩]
      simp only [SharedStore.run_bind]
      rcases SharedStore.run _ (note now _ _ _ _) with ⟨_ | _, t⟩
      · rfl
      · dsimp only
        rcases t.run (Session.countRun later spider) with ⟨_ | _, u⟩ <;> rfl

-- A call that is not let in has written nothing.
theorem letIn_cases (minutes : Nat) (spider : Int) (execution : String) (s : SharedStore) :
    (∃ r asked, s.run (letIn now later minutes spider execution) = (r, { s with asked := asked }) ∧
      ∀ d, r ≠ .ok (.ok d)) ∨
    ∃ y, s.store.spider? spider = .ok (some y) ∧
      RateLimit.check y.lastRun
        (RateLimit.intervalOf (s.store.setting? RateLimit.settingKey) minutes) now = .allow ∧
      s.run (letIn now later minutes spider execution) =
        match SharedStore.run { s with asked := s.asked + 2 }
          (Session.writes spider (callStarted now later ⟨spider, y.name, execution⟩)) with
        | (.ok _, t) => (.ok (.ok y.definition), t)
        | (.error e, t) => (.error e, t) := by
  have hrun : s.run (letIn now later minutes spider execution) = _ := SharedStore.run_bind _ _ _
  rw [Session.spider?_eq, SharedStore.run_look] at hrun
  cases hspider : s.refusal s.asked .spider with
  | some reason => exact .inl ⟨_, _, by rw [hrun, hspider], by simp⟩
  | none =>
      cases hy : s.store.spider? spider with
      | error e => exact .inl ⟨_, _, by rw [hrun, hspider, hy], by simp⟩
      | ok found =>
          rw [hspider, hy] at hrun
          cases found with
          | none => exact .inl ⟨_, _, hrun, by simp⟩
          | some y =>
              cases hsetting : s.refusal (s.asked + 1) .setting with
              | some reason =>
                  simp only [SharedStore.run_bind, Session.setting?_eq, SharedStore.run_look,
                    hsetting] at hrun
                  exact .inl ⟨_, _, hrun, by simp⟩
              | none =>
                  have hfound := letIn_found now later minutes execution hy hspider hsetting
                  let interval :=
                    RateLimit.intervalOf (s.store.setting? RateLimit.settingKey) minutes
                  cases hc : RateLimit.check y.lastRun interval now with
                  | deny remaining next => exact .inl ⟨_, _, by rw [hfound, hc], by simp⟩
                  | allow => exact .inr ⟨y, rfl, hc, by rw [hfound, hc]⟩

end Bookkeeping

end Spiderworks
