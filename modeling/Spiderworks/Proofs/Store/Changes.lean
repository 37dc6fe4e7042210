import Mathlib.Logic.Relation
import Spiderworks.Proofs.Store.Operations

namespace Spiderworks

open Time (Instant)

def NewFile.row (n : NewFile) (id : Int) (now : Instant) : FileRow :=
  ⟨id, n.spider, n.filename, n.path, some n.kind, min n.size Store.largestSize, n.execution,
    n.description, n.tags, now⟩

theorem NewFile.read_row (n : NewFile) (id : Int) (now : Instant) :
    (n.row id now).read = ⟨id, n.spider, n.filename, n.path, n.kind,
      min n.size Store.largestSize, n.execution, n.description, n.tags, now⟩ := by
  have hsize : (min (n.size : Int) Store.largestSize).toNat = min n.size Store.largestSize := by
    omega
  rw [FileRow.read, row, hsize]
  rfl

-- The row is of the same spider, which may have run since.
structure SpiderRow.Continues (r r' : SpiderRow) : Prop where
  id : r'.id = r.id
  name : r'.name = r.name
  code : r'.code = r.code
  config : r'.config = r.config

namespace Store

open Relation (ReflTransGen)

-- A store with one more spider, and one with one more file.
def created (n : NewSpider) (s : Store) : Store :=
  { s with
    spiders := s.spiders ++ [⟨s.lastSpider + 1, n.name, n.description, n.code,
      Status.inactive.name, n.config, none, 0, 0, 0⟩]
    lastSpider := s.lastSpider + 1 }

def filed (now : Instant) (n : NewFile) (s : Store) : Store :=
  { s with files := s.files ++ [n.row (s.lastFile + 1) now], lastFile := s.lastFile + 1 }

-- A small change, none of which is to a file. The row of a spider keeps its id and its name.
inductive Change (s : Store) : Store → Prop
  | created (n : NewSpider) : (∀ r ∈ s.spiders, r.name ≠ n.name) → Change s (s.created n)
  | changed (id : Int) (f : SpiderRow → SpiderRow) :
      (∀ r, (f r).id = r.id) → (∀ r, (f r).name = r.name) → Change s (s.change id f)
  | logged (now : Instant) (n : NewLog) : s.has n.spider = true → Change s (s.logged now n)
  | set (key value : String) : Change s (s.setSetting key value)

-- What a step answers, and what it leaves behind. A step that is not about a file is quiet, and so
-- is one that fails, as it changes nothing.
inductive Moves (s : Store) : Step → Except StoreError Answer → Store → Prop
  | quiet {t : Store} (x : Step) (r : Except StoreError Answer) :
      ReflTransGen Change s t → Moves s x r t
  | known (now : Instant) {n : NewFile} {row : FileRow} :
      s.fileRow? n.spider n.path = some row → Moves s (.ask (.registerFile now n))
        (.ok (.number row.id)) { s with lastFile := s.lastFile + 1 }
  | filed (now : Instant) {n : NewFile} :
      s.has n.spider = true → s.fileRow? n.spider n.path = none →
      Moves s (.ask (.registerFile now n)) (.ok (.number (s.lastFile + 1))) (s.filed now n)
  | deleted (id : Int) : Moves s (.delete id) (.ok .done) (s.delete id)

variable {s t : Store} {op : Operation} {now : Instant} {id : Int}

-- ### Effects

-- The entries that an operation makes if it succeeds, each with its time.
def Operation.entries : Operation → List (NewLog × Instant)
  | .appendLog now n => [(n, now)]
  | .appendLogs entries => entries
  | _ => []

-- What an operation that succeeds makes of a store.
inductive Effect (s : Store) : Operation → Store → Prop
  | unchanged (op : Operation) : op.entries = [] → Effect s op s
  | created {n : NewSpider} : (∀ r ∈ s.spiders, r.name ≠ n.name) →
      Effect s (.create n) (s.created n)
  | changed (op : Operation) (id : Int) {f : SpiderRow → SpiderRow} : op.entries = [] →
      (∀ r : SpiderRow, r.Continues (f r)) → Effect s op (s.change id f)
  | logged (now : Instant) {n : NewLog} : s.has n.spider = true →
      Effect s (.appendLog now n) (s.logged now n)
  | loggedAll {entries : List (NewLog × Instant)} {t : Store} : s.appendLogs entries = .ok t →
      Effect s (.appendLogs entries) t
  | registered {now : Instant} {n : NewFile} {id : Int} {t : Store} :
      s.registerFile now n = .ok (id, t) → Effect s (.registerFile now n) t
  | set (key value : String) : Effect s (.setSetting key value) (s.setSetting key value)

theorem effect_of_create {n : NewSpider} (h : s.create n = .ok (id, t)) :
    s.Effect (.create n) t := by
  unfold create at h
  split at h
  · cases h
  · rename_i hnew
    cases h
    exact .created (by simpa using hnew)

theorem effect_of_update {f : SpiderRow → SpiderRow} (h : s.update id f = .ok t)
    (hop : op.entries = []) (hf : ∀ r : SpiderRow, r.Continues (f r)) : s.Effect op t := by
  unfold update at h
  split at h
  · cases h
    exact .changed op id hop hf
  · cases h

theorem eq_logged_of_appendLog {n : NewLog} (h : s.appendLog now n = .ok (id, t)) :
    s.has n.spider = true ∧ t = s.logged now n := by
  unfold appendLog at h
  split at h
  · rename_i hn
    cases h
    exact ⟨hn, rfl⟩
  · cases h

theorem apply_effect {a : Answer} (h : op.apply s = .ok (a, t)) : s.Effect op t := by
  cases op with
  | create n =>
      obtain ⟨⟨id, u⟩, hu, heq⟩ := map_eq_ok_iff.mp h
      cases heq
      exact effect_of_create hu
  | setStatus | countRun | countSuccess | countError =>
      obtain ⟨u, hu, heq⟩ := map_eq_ok_iff.mp h
      cases heq
      exact effect_of_update hu rfl fun _ => ⟨rfl, rfl, rfl, rfl⟩
  | appendLog now n =>
      obtain ⟨⟨id, u⟩, hu, heq⟩ := map_eq_ok_iff.mp h
      cases heq
      obtain ⟨hn, rfl⟩ := eq_logged_of_appendLog hu
      exact .logged now hn
  | appendLogs entries =>
      obtain ⟨u, hu, heq⟩ := map_eq_ok_iff.mp h
      cases heq
      exact .loggedAll hu
  | registerFile now n =>
      obtain ⟨⟨id, u⟩, hu, heq⟩ := map_eq_ok_iff.mp h
      cases heq
      exact .registered hu
  | setSetting key value =>
      cases h
      exact .set key value
  | spider | list =>
      obtain ⟨found, -, heq⟩ := map_eq_ok_iff.mp h
      cases heq
      exact .unchanged _ rfl
  | spiderLogs | executionLogs | file | spiderFiles | setting =>
      cases h
      exact .unchanged _ rfl

-- ### Operations that are not about files

theorem appendLogs_changes {entries : List (NewLog × Instant)} (h : s.appendLogs entries = .ok t) :
    ReflTransGen Change s t := by
  induction entries generalizing s with
  | nil =>
      cases h
      exact .refl
  | cons entry rest ih =>
      rw [appendLogs] at h
      obtain ⟨⟨id, u⟩, hu, h⟩ := bind_eq_ok_iff.mp h
      obtain ⟨hn, rfl⟩ := eq_logged_of_appendLog hu
      exact .head (.logged entry.2 entry.1 hn) (ih h)

theorem Effect.changes (h : s.Effect op t) (hop : ∀ now n, op ≠ .registerFile now n) :
    ReflTransGen Change s t := by
  cases h with
  | unchanged => exact .refl
  | created hnew => exact .single (.created _ hnew)
  | changed _ id _ hf => exact .single (.changed id _ (fun r => (hf r).id) fun r => (hf r).name)
  | logged now hn => exact .single (.logged now _ hn)
  | loggedAll hlogged => exact appendLogs_changes hlogged
  | registered => exact absurd rfl (hop _ _)
  | set key value => exact .single (.set key value)

-- ### Registrations

variable {n : NewFile}

theorem step_registerFile_known {row : FileRow} (now : Instant)
    (hrow : s.fileRow? n.spider n.path = some row) : s.step (.ask (.registerFile now n)) =
      (.ok (.number row.id), { s with lastFile := s.lastFile + 1 }) := by
  simp only [step_ask, Operation.apply, registerFile, hrow]
  rfl

theorem step_registerFile_new (now : Instant) (hid : s.has n.spider = true)
    (hrow : s.fileRow? n.spider n.path = none) : s.step (.ask (.registerFile now n)) =
      (.ok (.number (s.lastFile + 1)), s.filed now n) := by
  simp only [step_ask, Operation.apply, registerFile, hid, hrow]
  rfl

theorem step_registerFile_missing (now : Instant) (hid : s.has n.spider = false)
    (hrow : s.fileRow? n.spider n.path = none) :
    s.step (.ask (.registerFile now n)) = (.error .noSuchOwner, s) := by
  simp only [step_ask, Operation.apply, registerFile, hid, hrow]
  rfl

theorem moves_registerFile (s : Store) (now : Instant) (n : NewFile) :
    s.Moves (.ask (.registerFile now n)) (s.step (.ask (.registerFile now n))).1
      (s.step (.ask (.registerFile now n))).2 := by
  cases hrow : s.fileRow? n.spider n.path with
  | some row =>
      rw [step_registerFile_known now hrow]
      exact .known now hrow
  | none =>
      cases hid : s.has n.spider with
      | false =>
          rw [step_registerFile_missing now hid hrow]
          exact .quiet _ _ .refl
      | true =>
          rw [step_registerFile_new now hid hrow]
          exact .filed now hid hrow

theorem moves_ask (hop : ∀ now n, op ≠ .registerFile now n) :
    s.Moves (.ask op) (s.step (.ask op)).1 (s.step (.ask op)).2 := by
  rw [step_ask]
  cases h : op.apply s with
  | error e => exact .quiet _ _ .refl
  | ok found => exact .quiet _ _ ((apply_effect h).changes hop)

theorem step_moves (s : Store) (x : Step) : s.Moves x (s.step x).1 (s.step x).2 := by
  cases x with
  | ask op =>
      by_cases hop : ∃ now n, op = .registerFile now n
      · obtain ⟨now, n, rfl⟩ := hop
        exact moves_registerFile s now n
      · exact moves_ask fun now n heq => hop ⟨now, n, heq⟩
  | delete id => exact .deleted id
  | reopen => exact .quiet _ _ .refl

end Store

end Spiderworks
