import Spiderworks.Engine.Bookkeeping
import Spiderworks.Output.Ingest
import Spiderworks.Proofs.Store.Undoing

namespace Spiderworks

variable {α β γ : Type} {g : List SpiderRow → γ}

structure SharedStore.Same (g : List SpiderRow → γ) (before after : SharedStore) : Prop where
  rows : g after.store.spiders = g before.store.spiders
  refusal : after.refusal = before.refusal
  poisoned : after.poisoned = before.poisoned

namespace SharedStore.Same

variable {a b c : SharedStore}

theorem refl (a : SharedStore) : Same g a a := ⟨rfl, rfl, rfl⟩

theorem trans (h : Same g a b) (k : Same g b c) : Same g a c :=
  ⟨k.rows.trans h.rows, k.refusal.trans h.refusal, k.poisoned.trans h.poisoned⟩

end SharedStore.Same

-- ### Sessions

theorem SharedStore.run_bind (s : SharedStore) (p : Session α) (f : α → Session β) :
    s.run (p >>= f) = match s.run p with
      | (.ok a, t) => t.run (f a)
      | (.error e, t) => (.error e, t) := by
  change (match p s with | (r, t) => ExceptT.bindCont f r t) =
    match p s with | (.ok a, t) => f a t | (.error e, t) => (.error e, t)
  rcases p s with ⟨_ | _, t⟩ <;> rfl

theorem SharedStore.run_hold (s : SharedStore) :
    s.run Session.hold = (if s.poisoned then .error .poisoned else .ok (), s) := by
  rw [Session.hold, run_bind]
  change (if s.poisoned then throw .poisoned else pure () : Session Unit) s = _
  split <;> rfl

theorem SharedStore.run_ask (s : SharedStore) (r : Request) (p : Query α) :
    s.run (Session.ask r p) = match s.refusal s.asked r with
      | some reason => (.error (StoreError.refused reason), { s with asked := s.asked + 1 })
      | none => ((p.on s.store).1, { s with asked := s.asked + 1, store := (p.on s.store).2 }) := by
  have hget : s.run (get : Session SharedStore) = (.ok s, s) := rfl
  rw [Session.ask, run_bind, hget]
  dsimp only
  cases s.refusal s.asked r with
  | some reason => rfl
  | none => rcases p.on s.store with ⟨_ | a, store⟩ <;> rfl

theorem SharedStore.run_attempt (s : SharedStore) (r : Request)
    (f : Store → Except StoreError (α × Store)) :
    s.run (Session.attempt r f) = match s.refusal s.asked r with
      | some reason => (.error (StoreError.refused reason), { s with asked := s.asked + 1 })
      | none => match f s.store with
        | .error e => (.error e, { s with asked := s.asked + 1 })
        | .ok (a, store) => (.ok a, { s with asked := s.asked + 1, store := store }) := by
  rw [Session.attempt, run_ask, Query.on_settle]
  cases s.refusal s.asked r with
  | some reason => rfl
  | none => rcases f s.store with _ | ⟨a, store⟩ <;> rfl

theorem SharedStore.run_look (s : SharedStore) (r : Request) (f : Store → Except StoreError α) :
    s.run (Session.look r f) = (match s.refusal s.asked r with
      | some reason => .error (.refused reason)
      | none => f s.store, { s with asked := s.asked + 1 }) := by
  rw [Session.look, run_attempt]
  cases s.refusal s.asked r with
  | some reason => rfl
  | none => cases f s.store <;> rfl

theorem SharedStore.store_of_attempt_error {s t : SharedStore} {r : Request}
    {f : Store → Except StoreError (α × Store)} {e : StoreError}
    (h : s.run (Session.attempt r f) = (.error e, t)) : t.store = s.store := by
  rw [run_attempt] at h
  split at h
  · cases h
    rfl
  · split at h <;> cases h
    rfl

def Session.Keeps (g : List SpiderRow → γ) (p : Session α) : Prop :=
  ∀ s : SharedStore, s.Same g (s.run p).2

namespace Session.Keeps

theorem pure (a : α) : Session.Keeps g (pure a) := fun s => .refl s

theorem bind {p : Session α} {f : α → Session β} (hp : p.Keeps g) (hf : ∀ a, (f a).Keeps g) :
    (p >>= f).Keeps g := by
  intro s
  have h := hp s
  rw [SharedStore.run_bind]
  rcases hr : s.run p with ⟨_ | a, t⟩ <;> rw [hr] at h
  · exact h
  · exact h.trans (hf a t)

theorem hold : Session.hold.Keeps g := by
  intro s
  rw [SharedStore.run_hold]
  exact .refl s

theorem attempt {r : Request} {f : Store → Except StoreError (α × Store)}
    (hf : ∀ s a t, f s = .ok (a, t) → g t.spiders = g s.spiders) :
    (Session.attempt r f).Keeps g := by
  intro s
  rw [SharedStore.run_attempt]
  split
  · exact ⟨rfl, rfl, rfl⟩
  · split
    · exact ⟨rfl, rfl, rfl⟩
    · rename_i a t ht
      exact ⟨hf _ _ _ ht, rfl, rfl⟩

theorem tell {r : Request} {f : Store → Except StoreError Store}
    (hf : ∀ s t, f s = .ok t → g t.spiders = g s.spiders) : (Session.tell r f).Keeps g := by
  refine attempt fun s _ t ht => ?_
  obtain ⟨u, hs, hu⟩ := map_eq_ok_iff.mp ht
  cases hu
  exact hf s t hs

theorem look {r : Request} {f : Store → Except StoreError α} : (Session.look r f).Keeps g := by
  refine attempt fun s _ t ht => ?_
  obtain ⟨a, -, ha⟩ := map_eq_ok_iff.mp ht
  cases ha
  rfl

-- A change of one spider is kept from a view that does not see it.
theorem update {r : Request} {f : SpiderRow → SpiderRow} {id : Int}
    (hf : ∀ rows : List SpiderRow, g (rows.map fun r => if r.id = id then f r else r) = g rows) :
    (Session.tell r (·.update id f)).Keeps g := by
  refine tell fun s t ht => ?_
  unfold Store.update at ht
  split at ht
  · cases ht; exact hf s.spiders
  · cases ht

end Session.Keeps

-- ### Requests that are not about the rows of spiders

theorem Store.appendLog_spiders {s t : Store} {now : Time.Instant} {n : NewLog} {id : Int}
    (h : s.appendLog now n = .ok (id, t)) : t.spiders = s.spiders := by
  unfold Store.appendLog at h
  split at h
  · cases h; rfl
  · cases h

theorem Store.appendLogs_spiders {s t : Store} {entries : List (NewLog × Time.Instant)}
    (h : s.appendLogs entries = .ok t) : t.spiders = s.spiders := by
  induction entries generalizing s with
  | nil => cases h; rfl
  | cons entry rest ih =>
      rw [Store.appendLogs] at h
      obtain ⟨⟨id, u⟩, ha, h⟩ := bind_eq_ok_iff.mp h
      exact (ih h).trans (appendLog_spiders ha)

theorem Store.registerFile_spiders {s t : Store} {now : Time.Instant} {n : NewFile} {id : Int}
    (h : s.registerFile now n = .ok (id, t)) : t.spiders = s.spiders := by
  unfold Store.registerFile at h
  dsimp only at h
  split at h
  · cases h; rfl
  · split at h <;> cases h
    rfl

namespace Session.Keeps

variable (now : Time.Instant)

theorem appendLog (n : NewLog) : (Session.appendLog now n).Keeps g := by
  rw [Session.appendLog_eq]
  exact attempt fun _ _ _ h => congrArg g (Store.appendLog_spiders h)

theorem appendLogs (entries : List (NewLog × Time.Instant)) :
    (Session.appendLogs entries).Keeps g := by
  rw [Session.appendLogs_eq]
  exact tell fun _ _ h => congrArg g (Store.appendLogs_spiders h)

theorem registerFile (n : NewFile) : (Session.registerFile now n).Keeps g := by
  rw [Session.registerFile_eq]
  exact attempt fun _ _ _ h => congrArg g (Store.registerFile_spiders h)

theorem registerNew (n : NewFile) : (Ingest.registerNew now n).Keeps g := by
  rw [Ingest.registerNew, Session.file?_eq]
  refine bind look fun known => ?_
  split
  · exact pure _
  · exact bind (registerFile now n) fun _ => pure _

theorem note (s : Bookkeeping.Subject) (level : LogLevel) (source : LogSource)
    (message : String) : (Bookkeeping.note now s level source message).Keeps g :=
  bind (appendLog now _) fun _ => pure _

end Session.Keeps

-- ### Work on the disk and the store

theorem Site.run_bind (s : Site) (w : Work α) (f : α → Work β) :
    s.run (w >>= f) = match s.run w with
      | (.ok a, t) => t.run (f a)
      | (.error e, t) => (.error e, t) := by
  change (match w s with | (r, t) => ExceptT.bindCont f r t) =
    match w s with | (.ok a, t) => f a t | (.error e, t) => (.error e, t)
  rcases w s with ⟨_ | _, t⟩ <;> rfl

theorem Site.bind_ok {x y : Site} {w : Work α} {f : α → Work β} {b : β}
    (h : x.run (w >>= f) = (.ok b, y)) :
    ∃ a u, x.run w = (.ok a, u) ∧ u.run (f a) = (.ok b, y) := by
  rw [run_bind] at h
  split at h
  · exact ⟨_, _, ‹_›, h⟩
  · cases h

theorem Site.bind_error {x y : Site} {w : Work α} {f : α → Work β} {e : EngineError}
    (h : x.run (w >>= f) = (.error e, y)) :
    x.run w = (.error e, y) ∨ ∃ a u, x.run w = (.ok a, u) ∧ u.run (f a) = (.error e, y) := by
  rw [run_bind] at h
  split at h
  · exact .inr ⟨_, _, ‹_›, h⟩
  · rename_i hfirst
    cases h
    exact .inl hfirst

theorem Site.run_session (s : Site) (p : Session α) :
    s.run (Work.session p) = match s.shared.run (do Session.hold; p) with
      | (.ok a, shared) => (.ok a, { s with shared := shared })
      | (.error e, shared) => (.error (EngineError.storage e), { s with shared := shared }) := by
  have hget : s.run get = (.ok s, s) := rfl
  have hset (t : Site) : s.run (set t) = (.ok (), t) := rfl
  simp only [Work.session, Site.run_bind, hget, hset]
  rcases s.shared.run (do Session.hold; p) with ⟨_ | _, shared⟩ <;> rfl

theorem Site.run_session_held {x : Site} (hp : x.shared.poisoned = false) (p : Session α) :
    x.run (Work.session p) = match x.shared.run p with
      | (.ok a, shared) => (.ok a, { x with shared := shared })
      | (.error e, shared) => (.error (EngineError.storage e), { x with shared := shared }) := by
  rw [run_session, SharedStore.run_bind, SharedStore.run_hold, hp]
  rfl

theorem Site.run_session_poisoned {x : Site} (hp : x.shared.poisoned = true) (p : Session α) :
    x.run (Work.session p) = (.error (EngineError.storage .poisoned), x) := by
  rw [run_session, SharedStore.run_bind, SharedStore.run_hold, hp]
  rfl

theorem Site.session_ok {x y : Site} {p : Session α} {a : α}
    (h : x.run (Work.session p) = (.ok a, y)) :
    x.shared.run p = (.ok a, y.shared) ∧ y.disk = x.disk := by
  cases hp : x.shared.poisoned with
  | true =>
      rw [run_session_poisoned hp] at h
      cases h
  | false =>
      rw [run_session_held hp] at h
      rcases hrun : x.shared.run p with ⟨_ | a, shared⟩ <;> rw [hrun] at h <;> cases h
      exact ⟨rfl, rfl⟩

-- A session that fails may have been kept from the store.
theorem Site.session_error {x y : Site} {p : Session α} {e : EngineError}
    (h : x.run (Work.session p) = (.error e, y)) :
    y = x ∨ ∃ reason, x.shared.run p = (.error reason, y.shared) := by
  cases hp : x.shared.poisoned with
  | true =>
      rw [run_session_poisoned hp] at h
      cases h
      exact .inl rfl
  | false =>
      rw [run_session_held hp] at h
      rcases hrun : x.shared.run p with ⟨reason | _, shared⟩ <;> rw [hrun] at h <;> cases h
      exact .inr ⟨reason, rfl⟩

def Work.Keeps (g : List SpiderRow → γ) (w : Work α) : Prop :=
  ∀ s : Site, s.shared.Same g (s.run w).2.shared

namespace Work.Keeps

theorem pure (a : α) : Work.Keeps g (pure a) := fun s => .refl s.shared

theorem throw (e : EngineError) : Work.Keeps (α := α) g (throw e) := fun s => .refl s.shared

theorem bind {w : Work α} {f : α → Work β} (hw : w.Keeps g) (hf : ∀ a, (f a).Keeps g) :
    (w >>= f).Keeps g := by
  intro s
  have h := hw s
  rw [Site.run_bind]
  rcases hr : s.run w with ⟨_ | a, t⟩ <;> rw [hr] at h
  · exact h
  · exact h.trans (hf a t)

theorem session {p : Session α} (hp : p.Keeps g) : (Work.session p).Keeps g := by
  intro s
  have h := (Session.Keeps.hold.bind fun _ => hp) s.shared
  rw [Site.run_session]
  rcases hr : s.shared.run (do Session.hold; p) with ⟨_ | a, shared⟩ <;> rw [hr] at h <;> exact h

theorem disk : Work.disk.Keeps g := fun s => .refl s.shared

theorem setDisk (d : Disk) : (Work.setDisk d).Keeps g := fun s => .refl s.shared

theorem changeDisk (f : Disk → Except IoError Disk) : (Work.changeDisk f).Keeps g := by
  refine bind disk fun d => ?_
  split
  · exact setDisk _
  · exact throw _

end Work.Keeps

end Spiderworks
