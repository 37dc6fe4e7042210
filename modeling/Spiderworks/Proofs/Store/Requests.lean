import Mathlib.Algebra.Group.Nat.Defs
import Spiderworks.Proofs.Store.Frame

namespace Spiderworks

theorem readCounter_eq_ok_iff {column n : Nat} {v : Int} :
    readCounter column v = .ok n ↔ v = n ∧ n < 2 ^ 32 := by
  have hpow : Int.pow 2 32 = 2 ^ 32 := rfl
  unfold readCounter
  rw [hpow]
  split
  · rw [Except.ok.injEq]
    omega
  · split <;> exact iff_of_false nofun (by omega)

theorem bump_of_readCounter {column n : Nat} {v : Int} (h : readCounter column v = .ok n) :
    bump v = ((n + 1 : Nat) : Int) := by
  have hpow : Int.pow 2 63 = 2 ^ 63 := rfl
  obtain ⟨rfl, hlt⟩ := readCounter_eq_ok_iff.mp h
  rw [bump, hpow, if_pos (by omega)]
  rfl

-- The counters of a spider are the only part of its row that may not be readable.
structure SpiderRow.Reads (row : SpiderRow) (x : Spider) : Prop where
  runs : readCounter 9 row.runs = .ok x.runs
  successes : readCounter 10 row.successes = .ok x.successes
  errors : readCounter 11 row.errors = .ok x.errors
  fields : x = ⟨row.id, row.name, row.description, row.code,
    (Status.ofName? row.status).getD .inactive, row.config, row.lastRun, x.runs, x.successes,
    x.errors⟩

theorem SpiderRow.reads {row : SpiderRow} {x : Spider} (h : row.read = .ok x) : row.Reads x := by
  unfold SpiderRow.read at h
  obtain ⟨runs, hr, h⟩ := bind_eq_ok_iff.mp h
  obtain ⟨successes, hs, h⟩ := bind_eq_ok_iff.mp h
  obtain ⟨errors, he, h⟩ := bind_eq_ok_iff.mp h
  cases h
  exact ⟨hr, hs, he, rfl⟩

theorem SpiderRow.read_eq_ok_iff {row : SpiderRow} {x : Spider} :
    row.read = .ok x ↔ row.Reads x := by
  refine ⟨SpiderRow.reads, fun h => ?_⟩
  simp only [SpiderRow.read, h.runs, h.successes, h.errors]
  exact congrArg Except.ok h.fields.symm

theorem SpiderRow.read_id {row : SpiderRow} {x : Spider} (h : row.read = .ok x) :
    x.id = row.id := congrArg Spider.id (SpiderRow.reads h).fields

theorem Store.has_iff {t : Store} {id : Int} : t.has id = true ↔ id ∈ t.spiders.map (·.id) := by
  simp [Store.has]

theorem Store.exists_row {t : Store} {id : Int} {x : Spider} (h : t.spider? id = .ok (some x)) :
    ∃ row, t.spiders.find? (·.id == id) = some row ∧ row.id = id ∧ row.read = .ok x := by
  unfold Store.spider? at h
  split at h
  · cases h
  · rename_i row hf
    obtain ⟨y, hr, hy⟩ := map_eq_ok_iff.mp h
    cases hy
    exact ⟨row, hf, by simpa using List.find?_some hf, hr⟩

-- A spider that is found goes by the number it was asked for, and is there.
theorem Store.spider?_eq_some {t : Store} {id : Int} {x : Spider}
    (h : t.spider? id = .ok (some x)) : x.id = id ∧ t.has id = true := by
  obtain ⟨row, hf, hid, hr⟩ := Store.exists_row h
  exact ⟨(SpiderRow.read_id hr).trans hid, Store.has_iff.mpr
    (List.mem_map.mpr ⟨row, List.mem_of_find?_eq_some hf, hid⟩)⟩

theorem Store.spider?_of_readable {t : Store} (h : ∀ row ∈ t.spiders, ∃ x, row.read = .ok x)
    (id : Int) : ∃ found, t.spider? id = .ok found := by
  unfold Store.spider?
  split
  · exact ⟨none, rfl⟩
  · rename_i row hf
    obtain ⟨x, hx⟩ := h row (List.mem_of_find?_eq_some hf)
    exact ⟨some x, by rw [hx]; rfl⟩

theorem SharedStore.run_spider?_eq_some {t : SharedStore} {id : Int} {x : Spider}
    (h : (t.run (Session.spider? id)).1 = .ok (some x)) : x.id = id ∧ t.store.has id = true := by
  rw [Session.spider?_eq, run_look] at h
  cases hr : t.refusal t.asked .spider with
  | some reason => simp [hr] at h
  | none =>
      simp only [hr] at h
      exact Store.spider?_eq_some h

-- ### Requests that are not refused

variable {α β : Type} {id : Int} {f g : SpiderRow → SpiderRow}

structure SharedStore.Willing (s : SharedStore) : Prop where
  refusal : ∀ n r, s.refusal n r = none
  poisoned : s.poisoned = false

theorem SharedStore.Same.willing {γ : Type} {g : List SpiderRow → γ} {s t : SharedStore}
    (h : s.Same g t) (hs : s.Willing) : t.Willing :=
  ⟨fun n r => by rw [h.refusal, hs.refusal], by rw [h.poisoned, hs.poisoned]⟩

-- These requests have been made one after the other, and none of them was refused.
structure SharedStore.Granted (s : SharedStore) (rs : List Request) (t : SharedStore) : Prop where
  asked : t.asked = s.asked + rs.length
  refusal : t.refusal = s.refusal
  granted : ∀ n r, rs[n]? = some r → s.refusal (s.asked + n) r = none

namespace SharedStore.Granted

variable {s t u : SharedStore} {rs more : List Request} {r : Request}

theorem nothing (s : SharedStore) : s.Granted [] s := ⟨rfl, rfl, nofun⟩

theorem one (hr : s.refusal s.asked r = none) (after : Store) :
    s.Granted [r] { s with asked := s.asked + 1, store := after } := by
  refine ⟨rfl, rfl, fun n q hq => ?_⟩
  cases n with
  | zero =>
      cases hq
      exact hr
  | succ n => cases hq

theorem trans (h : s.Granted rs t) (h' : t.Granted more u) : s.Granted (rs ++ more) u := by
  refine ⟨?_, h'.refusal.trans h.refusal, fun n r hr => ?_⟩
  · rw [h'.asked, h.asked, List.length_append, Nat.add_assoc]
  · rcases Nat.lt_or_ge n rs.length with hn | hn
    · exact h.granted n r (List.getElem?_append_left hn ▸ hr)
    · have hmore := h'.granted (n - rs.length) r (List.getElem?_append_right hn ▸ hr)
      rwa [h.asked, h.refusal, Nat.add_assoc, Nat.add_sub_cancel' hn] at hmore

-- A request that would be refused whatever it is, was not among them.
theorem exists_granted (h : s.Granted rs t) {n : Nat} (hfirst : s.asked ≤ n) (hlast : n < t.asked) :
    ∃ r ∈ rs, s.refusal n r = none := by
  have hn : n - s.asked < rs.length := by
    rw [h.asked] at hlast
    omega
  have hr := h.granted _ _ (List.getElem?_eq_getElem hn)
  rw [Nat.add_sub_cancel' hfirst] at hr
  exact ⟨_, List.getElem_mem hn, hr⟩

end SharedStore.Granted

-- The rows of one spider with a change made to them.
def Store.rewrite (id : Int) (f : SpiderRow → SpiderRow) (rows : List SpiderRow) :
    List SpiderRow :=
  rows.map fun r => if r.id = id then f r else r

-- A change does not show in what it leaves as it is in every row.
theorem Store.rewrite_view {view : SpiderRow → β} (hf : ∀ r, view (f r) = view r)
    (rows : List SpiderRow) : (Store.rewrite id f rows).map view = rows.map view := by
  rw [Store.rewrite, List.map_map]
  refine List.map_congr_left fun r _ => ?_
  rw [Function.comp_apply]
  split
  · exact hf r
  · rfl

theorem Store.rewrite_ids (hf : ∀ r, (f r).id = r.id) (rows : List SpiderRow) :
    (Store.rewrite id f rows).map (·.id) = rows.map (·.id) := rewrite_view hf rows

theorem Store.rewrite_self (id : Int) (rows : List SpiderRow) :
    Store.rewrite id (fun r => r) rows = rows := by
  simp [Store.rewrite]

theorem Store.rewrite_rewrite (hf : ∀ r, (f r).id = r.id) (rows : List SpiderRow) :
    Store.rewrite id g (Store.rewrite id f rows) = Store.rewrite id (fun r => g (f r)) rows := by
  rw [Store.rewrite, Store.rewrite, Store.rewrite, List.map_map]
  refine List.map_congr_left fun r _ => ?_
  by_cases hr : r.id = id
  · simp [hr, hf]
  · simp [hr]

theorem Store.find?_rewrite {a : Int} {f : SpiderRow → SpiderRow} (hf : ∀ r, (f r).id = r.id)
    (rows : List SpiderRow) (b : Int) : (Store.rewrite a f rows).find? (·.id == b) =
      (rows.find? (·.id == b)).map fun r => if r.id = a then f r else r := by
  have hid : ((fun r : SpiderRow => r.id == b) ∘ fun r => if r.id = a then f r else r) =
      fun r => r.id == b := by
    funext r
    rw [Function.comp_apply]
    split
    · rw [hf]
    · rfl
  rw [Store.rewrite, List.find?_map, hid]

theorem Store.spider?_change_other {a b : Int} {f : SpiderRow → SpiderRow}
    (hf : ∀ r, (f r).id = r.id) (t : Store) (hb : b ≠ a) :
    (t.change a f).spider? b = t.spider? b := by
  have hrows : (t.change a f).spiders.find? (·.id == b) = t.spiders.find? (·.id == b) := by
    rw [show (t.change a f).spiders = Store.rewrite a f t.spiders from rfl, Store.find?_rewrite hf]
    cases hrow : t.spiders.find? (·.id == b) with
    | none => rfl
    | some row =>
        have hid : row.id = b := by simpa using List.find?_some hrow
        rw [Option.map_some, if_neg (hid ▸ hb)]
  rw [spider?, hrows, ← spider?]

-- What is read of a spider after a change is read off its changed row.
theorem Store.spider?_change_self {a : Int} {f : SpiderRow → SpiderRow}
    (hf : ∀ r, (f r).id = r.id) {t : Store} {y : Spider} (hy : t.spider? a = .ok (some y)) :
    ∃ row ∈ t.spiders, row.id = a ∧ row.read = .ok y ∧
      (t.change a f).spider? a = (f row).read.map some := by
  obtain ⟨row, hrow, hid, hread⟩ := Store.exists_row hy
  refine ⟨row, List.mem_of_find?_eq_some hrow, hid, hread, ?_⟩
  rw [spider?, show (t.change a f).spiders = Store.rewrite a f t.spiders from rfl,
    Store.find?_rewrite hf, hrow, Option.map_some, if_pos hid]

-- A session that writes down a change of a spider succeeds when the spider is there, and changes
-- nothing else about the rows.
def Session.Writes (id : Int) (f : SpiderRow → SpiderRow) (p : Session α) : Prop :=
  ∀ s : SharedStore, s.Willing → s.store.has id = true →
    ∃ a t, s.run p = (.ok a, t) ∧ t.Willing ∧ t.store.spiders = Store.rewrite id f s.store.spiders

namespace Session.Writes

theorem bind {p : Session α} {q : α → Session β} (hp : p.Writes id f)
    (hf : ∀ r, (f r).id = r.id) (hq : ∀ a, (q a).Writes id g) :
    (p >>= q).Writes id fun r => g (f r) := by
  intro s hs hid
  obtain ⟨a, t, hr, ht, hrows⟩ := hp s hs hid
  have hid' : t.store.has id = true := by
    rw [Store.has_iff, hrows, Store.rewrite_ids hf, ← Store.has_iff]
    exact hid
  obtain ⟨b, u, hr', hu, hrows'⟩ := hq a t ht hid'
  refine ⟨b, u, ?_, hu, ?_⟩
  · rw [SharedStore.run_bind, hr]
    exact hr'
  · rw [hrows', hrows, Store.rewrite_rewrite hf]

theorem pure (a : α) : (pure a : Session α).Writes id fun r => r := by
  intro s hs _
  exact ⟨a, s, rfl, hs, by simp [Store.rewrite]⟩

theorem tell_update (r : Request) : (Session.tell r (·.update id f)).Writes id f := by
  intro s hs hid
  refine ⟨(), { s with asked := s.asked + 1, store := s.store.change id f }, ?_,
    ⟨hs.refusal, hs.poisoned⟩, rfl⟩
  rw [Session.tell, SharedStore.run_attempt, hs.refusal]
  simp only [Store.update, hid, ↓reduceIte, Except.map]

theorem setStatus (id : Int) (status : Status) : (Session.setStatus id status).Writes id
    fun r => { r with status := status.name } := by
  rw [Session.setStatus_eq]
  exact tell_update _

theorem countRun (now : Time.Instant) (id : Int) : (Session.countRun now id).Writes id
    fun r => { r with runs := bump r.runs, lastRun := some (String.ofList now.rfc3339) } := by
  rw [Session.countRun_eq]
  exact tell_update _

theorem countSuccess (id : Int) : (Session.countSuccess id).Writes id
    fun r => { r with successes := bump r.successes } := by
  rw [Session.countSuccess_eq]
  exact tell_update _

theorem countError (id : Int) : (Session.countError id).Writes id
    fun r => { r with errors := bump r.errors } := by
  rw [Session.countError_eq]
  exact tell_update _

theorem note (now : Time.Instant) (x : Bookkeeping.Subject) (level : LogLevel)
    (source : LogSource) (message : String) :
    (Bookkeeping.note now x level source message).Writes x.spider fun r => r := by
  refine bind (f := fun r => r) ?_ (fun _ => rfl) fun _ => pure _
  intro s hs hid
  obtain ⟨row, t, ht⟩ : ∃ row t, s.store.appendLog now
      ⟨x.spider, level, source, message, some x.execution⟩ = .ok (row, t) := by
    simp only [Store.appendLog, hid, ↓reduceIte]
    exact ⟨_, _, rfl⟩
  refine ⟨row, { s with asked := s.asked + 1, store := t }, ?_, ⟨hs.refusal, hs.poisoned⟩, ?_⟩
  · rw [Session.appendLog_eq, SharedStore.run_attempt, hs.refusal]
    simp only [ht]
  · simpa [Store.rewrite] using Store.appendLog_spiders ht

end Session.Writes

-- ### Entries

namespace Bookkeeping

variable (now : Time.Instant) (x : Subject)

theorem markStarted_writes : (markStarted now x).Writes x.spider fun r =>
    { r with
      status := Status.running.name
      runs := bump r.runs
      lastRun := some (String.ofList now.rfc3339) } :=
  (Session.Writes.setStatus _ _).bind (fun _ => rfl) fun _ =>
    (Session.Writes.countRun now _).bind (fun _ => rfl) fun _ => .note now x _ _ _

theorem reconcile_writes (code : Int) (nanos : Nat) :
    (reconcile now x code nanos).Writes x.spider fun r =>
      if code = 0 then
        { r with status := Status.inactive.name, successes := bump r.successes }
      else { r with status := Status.error.name, errors := bump r.errors } := by
  by_cases hc : code = 0
  · simp only [reconcile, Status.ofExitCode, hc, ↓reduceIte]
    exact (Session.Writes.setStatus _ _).bind (fun _ => rfl) fun _ =>
      (Session.Writes.countSuccess _).bind (fun _ => rfl) fun _ => .note now x _ _ _
  · simp only [reconcile, Status.ofExitCode, hc, ↓reduceIte]
    exact (Session.Writes.setStatus _ _).bind (fun _ => rfl) fun _ =>
      (Session.Writes.countError _).bind (fun _ => rfl) fun _ => .note now x _ _ _

theorem recordFailure_writes (e : EngineError) : (recordFailure now x e).Writes x.spider fun r =>
    { r with status := Status.error.name, errors := bump r.errors } :=
  (Session.Writes.setStatus _ _).bind (fun _ => rfl) fun _ =>
    (Session.Writes.countError _).bind (fun _ => rfl) fun _ => .note now x _ _ _

-- A spider that can be read, or is not there, lets its status be set.
theorem markStopped_writes {s : SharedStore} {spider : Int} (execution : String)
    (hs : s.Willing) (hid : s.store.has spider = true)
    (readable : ∃ found, s.store.spider? spider = .ok found) :
    ∃ t, s.run (markStopped now spider execution) = (.ok (), t) ∧ t.Willing ∧
      t.store.spiders = Store.rewrite spider
        (fun r => { r with status := Status.stopped.name }) s.store.spiders := by
  obtain ⟨found, hf⟩ := readable
  have hrun : s.run (Session.spider? spider) = (.ok found, { s with asked := s.asked + 1 }) := by
    rw [Session.spider?_eq, SharedStore.run_look, hs.refusal]
    simp only [hf]
  rw [markStopped, SharedStore.run_bind, hrun]
  dsimp only
  have writes (name : String) : Session.Writes spider
      (fun r => { r with status := Status.stopped.name }) (do
        Session.setStatus spider .stopped
        note now ⟨spider, name, execution⟩ .warning .spiderRunner
          ("Spider " ++ quoted name ++ " was stopped manually")) :=
    (Session.Writes.setStatus _ _).bind (fun _ => rfl) fun _ =>
      .note now ⟨spider, name, execution⟩ _ _ _
  have written (name : String) := writes name { s with asked := s.asked + 1 }
    ⟨hs.refusal, hs.poisoned⟩ hid
  cases found with
  | none =>
      obtain ⟨_, t, ht⟩ := written (String.ofList (Text.ofInt spider))
      exact ⟨t, ht⟩
  | some x =>
      obtain ⟨_, t, ht⟩ := written x.name
      exact ⟨t, ht⟩

end Bookkeeping

end Spiderworks
