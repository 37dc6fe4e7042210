import Spiderworks.Proofs.Fallible
import Spiderworks.Store.Shared

namespace Spiderworks

open Time (Instant)

-- ### What comes of a request

namespace Store

def create (s : Store) (n : NewSpider) : Except StoreError (Int × Store) :=
  if s.spiders.any (·.name == n.name) then .error (.nameTaken n.name)
  else
    let id := s.lastSpider + 1
    let row : SpiderRow :=
      ⟨id, n.name, n.description, n.code, Status.inactive.name, n.config, none, 0, 0, 0⟩
    .ok (id, { s with spiders := s.spiders ++ [row], lastSpider := id })

def update (s : Store) (id : Int) (f : SpiderRow → SpiderRow) : Except StoreError Store :=
  if s.has id then .ok (s.change id f) else .error (.unknownSpider id)

def appendLog (s : Store) (now : Instant) (n : NewLog) : Except StoreError (Int × Store) :=
  if s.has n.spider then
    let id := s.lastLog + 1
    let row : LogRow :=
      ⟨id, n.spider, n.level.name, some n.source.name, n.message, n.execution, now⟩
    .ok (id, { s with logs := s.logs ++ [row], lastLog := id })
  else .error .noSuchOwner

def appendLogs (s : Store) : List (NewLog × Instant) → Except StoreError Store
  | [] => .ok s
  | (n, now) :: rest => do
    let (_, s) ← s.appendLog now n
    s.appendLogs rest

def registerFile (s : Store) (now : Instant) (n : NewFile) : Except StoreError (Int × Store) :=
  let id := s.lastFile + 1
  match s.fileRow? n.spider n.path with
  | some row => .ok (row.id, { s with lastFile := id })
  | none =>
    if s.has n.spider then
      let row : FileRow := ⟨id, n.spider, n.filename, n.path, some n.kind,
        min n.size largestSize, n.execution, n.description, n.tags, now⟩
      .ok (id, { s with files := s.files ++ [row], lastFile := id })
    else .error .noSuchOwner

end Store

-- ### Going back

variable {α β : Type}

namespace Journal

theorem run_bind (j : Journal) (p : Query α) (q : α → Query β) :
    j.run (p >>= q) = match j.run p with
      | (.ok a, k) => k.run (q a)
      | (.error e, k) => (.error e, k) := by
  change (match p j with | (r, k) => ExceptT.bindCont q r k) =
    match p j with | (.ok a, k) => q a k | (.error e, k) => (.error e, k)
  rcases p j with ⟨_ | _, k⟩ <;> rfl

theorem run_tryCatch (j : Journal) (p : Query α) (q : StoreError → Query α) :
    j.run (tryCatch p q) = match j.run p with
      | (.ok a, k) => (.ok a, k)
      | (.error e, k) => k.run (q e) := by
  rw [run, ExceptT.run_tryCatch, StateT.run_bind]
  rcases hp : j.run p with ⟨_ | _, k⟩ <;> (rw [run] at hp; rw [hp]; rfl)

theorem run_tables (j : Journal) : j.run Query.tables = (.ok j.tables, j) := rfl

theorem run_put (j : Journal) (s : Store) :
    j.run (Query.put s) = (.ok (), { j with tables := s }) :=
  rfl

theorem run_undoing (j : Journal) (p : Query α) :
    j.run (Query.undoing p) = match (Journal.mk j.tables (j.tables :: j.points)).run p with
      | (.ok a, k) => (.ok a, ⟨k.tables, k.points.tail⟩)
      | (.error e, k) => (.error e, ⟨k.points.headD k.tables, k.points.tail⟩) := by
  have hset : j.run Query.setPoint = (.ok (), ⟨j.tables, j.tables :: j.points⟩) := rfl
  simp only [Query.undoing, run_bind, hset, run_tryCatch]
  rcases (Journal.mk j.tables (j.tables :: j.points)).run p with ⟨_ | _, k⟩ <;> rfl

end Journal

namespace Query

variable {p : Query α} {f : Store → Except StoreError (α × Store)}

-- A query that changes the tables as `f` says, and not at all where `f` fails.
def settle (f : Store → Except StoreError (α × Store)) : Query α := do
  match f (← tables) with
  | .ok (a, t) => do
    put t
    return a
  | .error e => throw e

-- Where `f` succeeds the query does what `f` says. Where `f` fails the query fails too, but it may
-- have changed the tables by then.
structure Yields (p : Query α) (f : Store → Except StoreError (α × Store)) : Prop where
  ok : ∀ (j : Journal) a t, f j.tables = .ok (a, t) → j.run p = (.ok a, { j with tables := t })
  error : ∀ (j : Journal) e, f j.tables = .error e →
    ∃ t, j.run p = (.error e, { j with tables := t })

theorem run_settle (f : Store → Except StoreError (α × Store)) (j : Journal) :
    j.run (settle f) = match f j.tables with
      | .ok (a, t) => (.ok a, { j with tables := t })
      | .error e => (.error e, j) := by
  simp only [settle, Journal.run_bind, Journal.run_tables]
  rcases f j.tables with _ | ⟨a, t⟩ <;> rfl

theorem yields_settle (f : Store → Except StoreError (α × Store)) : Yields (settle f) f := by
  constructor
  · intro j a t h
    rw [run_settle, h]
  · intro j e h
    exact ⟨j.tables, by rw [run_settle, h]⟩

theorem Yields.bind {q : α → Query β} {g : α → Store → Except StoreError (β × Store)}
    (hp : Yields p f) (hq : ∀ a, Yields (q a) (g a)) :
    Yields (p >>= q) fun s => f s >>= fun found => g found.1 found.2 := by
  constructor
  · intro j b t h
    obtain ⟨⟨a, u⟩, hf, hg⟩ := bind_eq_ok_iff.mp h
    rw [Journal.run_bind, hp.ok j a u hf]
    exact (hq a).ok { j with tables := u } b t hg
  · intro j e h
    rcases bind_eq_error_iff.mp h with hf | ⟨⟨a, u⟩, hf, hg⟩
    · obtain ⟨t, ht⟩ := hp.error j e hf
      exact ⟨t, by rw [Journal.run_bind, ht]⟩
    · obtain ⟨t, ht⟩ := (hq a).error { j with tables := u } e hg
      exact ⟨t, by rw [Journal.run_bind, hp.ok j a u hf]; exact ht⟩

theorem Yields.congr {g : Store → Except StoreError (α × Store)} (h : Yields p f)
    (heq : ∀ s, g s = f s) : Yields p g :=
  ⟨fun j a t hg => h.ok j a t ((heq _).symm.trans hg),
    fun j e hg => h.error j e ((heq _).symm.trans hg)⟩

theorem ext_run {q : Query α} (h : ∀ j : Journal, j.run p = j.run q) : p = q := funext h

-- Whatever a query has changed by the time it fails, none of it is left.
theorem Yields.undoing (h : Yields p f) : undoing p = settle f := by
  refine ext_run fun j => ?_
  rw [Journal.run_undoing, run_settle]
  cases hf : f j.tables with
  | ok found =>
      rw [h.ok ⟨j.tables, j.tables :: j.points⟩ found.1 found.2 hf]
      rfl
  | error e =>
      obtain ⟨t, ht⟩ := h.error ⟨j.tables, j.tables :: j.points⟩ e hf
      rw [ht]
      rfl

theorem on_settle (f : Store → Except StoreError (α × Store)) (s : Store) :
    (settle f).on s = match f s with
      | .ok (a, t) => (.ok a, t)
      | .error e => (.error e, s) := by
  rw [on, run_settle]
  rcases f s with _ | ⟨a, t⟩ <;> rfl

theorem look_eq (f : Store → Except StoreError α) :
    look f = settle fun s => (f s).map fun a => (a, s) := by
  refine ext_run fun j => ?_
  rw [run_settle]
  simp only [look, Journal.run_bind, Journal.run_tables]
  rcases f j.tables with _ | a <;> rfl

-- ### Requests

-- The name is compared too late to keep the row and its number out of the table.
theorem create_eq (n : NewSpider) : create n = settle (·.create n) := by
  refine Yields.undoing ⟨fun j id t h => ?_, fun j e h => ?_⟩ <;>
    simp only [Store.create] at h <;> split at h <;> cases h
  · rename_i hnew
    simp only [Journal.run_bind, Journal.run_tables, Journal.run_put, hnew]
    rfl
  · rename_i htaken
    simp only [Journal.run_bind, Journal.run_tables, Journal.run_put, htaken]
    exact ⟨_, rfl⟩

-- A statement that has found no row has changed none.
theorem update_eq (id : Int) (f : SpiderRow → SpiderRow) :
    update id f = settle fun s => (s.update id f).map ((), ·) := by
  have hchange : (statement do
      let s ← tables
      put (s.change id f)
      return s.rowsOf id) = settle fun s => .ok (s.rowsOf id, s.change id f) := by
    refine Yields.undoing ⟨fun j n t h => ?_, nofun⟩
    cases h
    rfl
  refine ext_run fun j => ?_
  rw [update, hchange, Journal.run_bind, run_settle, run_settle, Store.update]
  cases hid : j.tables.has id with
  | true =>
      have hrows : j.tables.rowsOf id ≠ 0 := fun hzero => by
        rw [Store.rowsOf, List.countP_eq_zero] at hzero
        obtain ⟨row, hrow, hr⟩ := List.any_eq_true.mp hid
        exact hzero row hrow hr
      simp only [hrows]
      rfl
  | false =>
      have habsent : ∀ row ∈ j.tables.spiders, ¬(row.id == id) = true :=
        List.any_eq_false.mp hid
      have hrows : j.tables.rowsOf id = 0 := List.countP_eq_zero.mpr habsent
      have hsame : j.tables.change id f = j.tables := by
        have hmap : j.tables.spiders.map (fun r => if r.id = id then f r else r) =
            j.tables.spiders := by
          refine (List.map_congr_left fun row hrow => ?_).trans (List.map_id _)
          exact if_neg (by simpa using habsent row hrow)
        rw [Store.change, hmap]
      simp only [hrows, hsame]
      rfl

theorem appendLog_eq (now : Instant) (n : NewLog) :
    appendLog now n = settle (·.appendLog now n) := by
  refine Yields.undoing ⟨fun j id t h => ?_, fun j e h => ?_⟩ <;>
    simp only [Store.appendLog] at h <;> split at h <;> cases h
  · rename_i hid
    simp only [Journal.run_bind, Journal.run_tables, Journal.run_put, hid]
    rfl
  · rename_i hid
    simp only [Journal.run_bind, Journal.run_tables, Journal.run_put, hid]
    exact ⟨_, rfl⟩

-- Entries that were fine are in the log when a later one fails.
theorem yields_appendEach (entries : List (NewLog × Instant)) :
    Yields (appendEach entries) fun s => (s.appendLogs entries).map ((), ·) := by
  induction entries with
  | nil =>
      refine ⟨fun j a t h => ?_, nofun⟩
      cases h
      rfl
  | cons entry rest ih =>
      have hfirst : Yields (appendLog entry.2 entry.1) (·.appendLog entry.2 entry.1) := by
        rw [appendLog_eq]
        exact yields_settle _
      have hboth := hfirst.bind fun _ => ih
      refine hboth.congr fun s => ?_
      rw [Store.appendLogs]
      rcases s.appendLog entry.2 entry.1 with _ | ⟨id, t⟩ <;> rfl

-- The transaction takes them out again.
theorem appendLogs_eq (entries : List (NewLog × Instant)) :
    appendLogs entries = settle fun s => (s.appendLogs entries).map ((), ·) :=
  (yields_appendEach entries).undoing

theorem insertFile_eq (now : Instant) (n : NewFile) :
    insertFile now n = settle fun s => (s.registerFile now n).map fun found => ((), found.2) := by
  refine Yields.undoing ⟨fun j _ t h => ?_, fun j e h => ?_⟩
  · cases hrow : j.tables.fileRow? n.spider n.path with
    | some row =>
        simp only [Store.registerFile, hrow] at h
        cases h
        simp only [Journal.run_bind, Journal.run_tables, hrow]
        rfl
    | none =>
        simp only [Store.registerFile, hrow] at h
        split at h <;> cases h
        rename_i hid
        simp only [Journal.run_bind, Journal.run_tables, Journal.run_put, hrow, hid]
        rfl
  · cases hrow : j.tables.fileRow? n.spider n.path with
    | some row =>
        simp only [Store.registerFile, hrow] at h
        cases h
    | none =>
        simp only [Store.registerFile, hrow] at h
        split at h <;> cases h
        rename_i hid
        simp only [Journal.run_bind, Journal.run_tables, Journal.run_put, hrow, hid]
        exact ⟨_, rfl⟩

theorem fileRow?_of_registerFile {s t : Store} {now : Instant} {n : NewFile} {id : Int}
    (h : s.registerFile now n = .ok (id, t)) :
    (t.fileRow? n.spider n.path).map (·.id) = some id := by
  unfold Store.registerFile at h
  dsimp only at h
  split at h
  · rename_i row hrow
    cases h
    exact congrArg (Option.map _) hrow
  · rename_i hnone
    split at h <;> cases h
    rw [Store.fileRow?] at hnone
    simp [Store.fileRow?, List.find?_append, hnone]

-- By the time the id is looked up there is a row with the path.
theorem registerFile_eq (now : Instant) (n : NewFile) :
    registerFile now n = settle (·.registerFile now n) := by
  refine ext_run fun j => ?_
  rw [registerFile, insertFile_eq, Journal.run_bind, run_settle, run_settle]
  cases h : j.tables.registerFile now n with
  | error e => rfl
  | ok found =>
      obtain ⟨row, hrow, hid⟩ := Option.map_eq_some_iff.mp (fileRow?_of_registerFile h)
      simp only [Except.map, Journal.run_bind, Journal.run_tables, hrow]
      rw [hid]
      rfl

theorem setSetting_eq (key value : String) :
    setSetting key value = settle fun s => .ok ((), s.setSetting key value) := by
  refine Yields.undoing ⟨fun j a t h => ?_, nofun⟩
  cases h
  rfl

end Query

namespace Session

-- ### Requests that leave nothing where they fail

def attempt (r : Request) (f : Store → Except StoreError (α × Store)) : Session α :=
  ask r (Query.settle f)

-- A request that only changes the store, and one that only looks at it.
def tell (r : Request) (f : Store → Except StoreError Store) : Session Unit :=
  attempt r fun s => (f s).map ((), ·)

def look (r : Request) (f : Store → Except StoreError α) : Session α :=
  attempt r fun s => (f s).map fun a => (a, s)

theorem create_eq (n : NewSpider) : create n = attempt .create (·.create n) := by
  rw [create, Query.create_eq, attempt]

theorem spider?_eq (id : Int) : spider? id = look .spider (·.spider? id) := by
  rw [spider?, Query.look_eq, look, attempt]

theorem list_eq : list = look .list (·.list) := by rw [list, Query.look_eq, look, attempt]

theorem setStatus_eq (id : Int) (status : Status) : setStatus id status =
    tell .setStatus (·.update id fun r => { r with status := status.name }) := by
  rw [setStatus, Query.setStatus, Query.update_eq, tell, attempt]

theorem countRun_eq (now : Instant) (id : Int) : countRun now id = tell .countRun (·.update id
    fun r => { r with runs := bump r.runs, lastRun := some (String.ofList now.rfc3339) }) := by
  rw [countRun, Query.countRun, Query.update_eq, tell, attempt]

theorem countSuccess_eq (id : Int) : countSuccess id =
    tell .countSuccess (·.update id fun r => { r with successes := bump r.successes }) := by
  rw [countSuccess, Query.countSuccess, Query.update_eq, tell, attempt]

theorem countError_eq (id : Int) : countError id =
    tell .countError (·.update id fun r => { r with errors := bump r.errors }) := by
  rw [countError, Query.countError, Query.update_eq, tell, attempt]

theorem appendLog_eq (now : Instant) (n : NewLog) :
    appendLog now n = attempt .appendLog (·.appendLog now n) := by
  rw [appendLog, Query.appendLog_eq, attempt]

theorem appendLogs_eq (entries : List (NewLog × Instant)) :
    appendLogs entries = tell .appendLogs (·.appendLogs entries) := by
  rw [appendLogs, Query.appendLogs_eq, tell, attempt]

theorem spiderLogs_eq (spider : Int) (limit : Nat) :
    spiderLogs spider limit = look .spiderLogs fun s => .ok (s.spiderLogs spider limit) := by
  rw [spiderLogs, Query.look_eq, look, attempt]

theorem executionLogs_eq (execution : String) :
    executionLogs execution = look .executionLogs fun s => .ok (s.executionLogs execution) := by
  rw [executionLogs, Query.look_eq, look, attempt]

theorem registerFile_eq (now : Instant) (n : NewFile) :
    registerFile now n = attempt .registerFile (·.registerFile now n) := by
  rw [registerFile, Query.registerFile_eq, attempt]

theorem file?_eq (spider : Int) (path : String) :
    file? spider path = look .findFile fun s => .ok (s.file? spider path) := by
  rw [file?, Query.look_eq, look, attempt]

theorem spiderFiles_eq (spider : Int) :
    spiderFiles spider = look .spiderFiles fun s => .ok (s.spiderFiles spider) := by
  rw [spiderFiles, Query.look_eq, look, attempt]

theorem setting?_eq (key : String) : setting? key = look .setting fun s => .ok (s.setting? key) := by
  rw [setting?, Query.look_eq, look, attempt]

theorem setSetting_eq (key value : String) :
    setSetting key value = tell .setSetting fun s => .ok (s.setSetting key value) := by
  rw [setSetting, Query.setSetting_eq, tell, attempt]
  rfl

end Session

end Spiderworks
