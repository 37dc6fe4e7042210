import Spiderworks.Proofs.Store.Rows

namespace Spiderworks

open Time (Instant)

def NewLog.row (n : NewLog) (id : Int) (now : Instant) : LogRow :=
  ⟨id, n.spider, n.level.name, some n.source.name, n.message, n.execution, now⟩

namespace Store

-- Entries as rows that are numbered from `id` on.
def rowsFrom (id : Int) : List (NewLog × Instant) → List LogRow
  | [] => []
  | (n, now) :: rest => n.row id now :: rowsFrom (id + 1) rest

def made (s : Store) : Step → List (NewLog × Instant)
  | .ask op => if (s.step (.ask op)).1.isOk then op.entries else []
  | .delete _ | .reopen => []

-- The entries that are made in the course of a history.
def recorded (s : Store) : List Step → List (NewLog × Instant)
  | [] => []
  | x :: rest => s.made x ++ recorded (s.step x).2 rest

variable {s t : Store} {op : Operation} {x : Step} {steps : List Step} {now : Instant}
  {entries more : List (NewLog × Instant)}

-- ### Growth

-- The log is longer by these entries, with the next numbers.
structure Logs (s : Store) (entries : List (NewLog × Instant)) (t : Store) : Prop where
  rows : t.logs = s.logs ++ rowsFrom (s.lastLog + 1) entries
  last : t.lastLog = s.lastLog + entries.length

theorem rowsFrom_append (id : Int) (entries more : List (NewLog × Instant)) :
    rowsFrom id (entries ++ more) = rowsFrom id entries ++ rowsFrom (id + entries.length) more := by
  induction entries generalizing id with
  | nil => rw [List.nil_append, List.length_nil, Int.ofNat_zero, Int.add_zero, rowsFrom,
      List.nil_append]
  | cons e rest ih =>
      have hid : id + 1 + rest.length = id + (e :: rest).length := by
        rw [List.length_cons]
        omega
      rw [List.cons_append, rowsFrom, rowsFrom, ih, hid, List.cons_append]

namespace Logs

theorem none (hrows : t.logs = s.logs) (hlast : t.lastLog = s.lastLog) : Logs s [] t :=
  ⟨by rw [hrows, rowsFrom, List.append_nil],
    by rw [hlast, List.length_nil, Int.ofNat_zero, Int.add_zero]⟩

theorem trans {u : Store} (h : Logs s entries t) (h' : Logs t more u) :
    Logs s (entries ++ more) u := by
  have hnext : t.lastLog + 1 = s.lastLog + 1 + entries.length := by
    rw [h.last]
    omega
  constructor
  · rw [h'.rows, h.rows, hnext, rowsFrom_append, List.append_assoc]
  · rw [h'.last, h.last, List.length_append]
    omega

theorem logged (s : Store) (now : Instant) (n : NewLog) : Logs s [(n, now)] (s.logged now n) :=
  ⟨rfl, rfl⟩

end Logs

theorem appendLogs_logs {entries : List (NewLog × Instant)} (h : s.appendLogs entries = .ok t) :
    Logs s entries t := by
  induction entries generalizing s with
  | nil =>
      cases h
      exact .none rfl rfl
  | cons entry rest ih =>
      rw [appendLogs] at h
      obtain ⟨⟨id, u⟩, hu, h⟩ := bind_eq_ok_iff.mp h
      obtain ⟨-, rfl⟩ := eq_logged_of_appendLog hu
      exact (Logs.logged s entry.2 entry.1).trans (ih h)

theorem registerFile_logs {n : NewFile} {id : Int} (h : s.registerFile now n = .ok (id, t)) :
    Logs s [] t := by
  unfold registerFile at h
  dsimp only at h
  split at h
  · cases h
    exact .none rfl rfl
  · split at h <;> cases h
    exact .none rfl rfl

theorem Effect.logs (h : s.Effect op t) : Logs s op.entries t := by
  cases h with
  | unchanged _ hnone | changed _ _ hnone =>
      rw [hnone]
      exact .none rfl rfl
  | created | set => exact .none rfl rfl
  | logged now => exact .logged s now _
  | loggedAll hlogged => exact appendLogs_logs hlogged
  | registered hrow => exact registerFile_logs hrow

theorem step_logs (hx : ∀ id, x ≠ .delete id) : Logs s (s.made x) (s.step x).2 := by
  cases x with
  | ask op =>
      rw [made, step_ask]
      cases hop : op.apply s with
      | error e => exact .none rfl rfl
      | ok found => exact (apply_effect hop).logs
  | delete id => exact absurd rfl (hx id)
  | reopen => exact .none rfl rfl

theorem perform_logs (h : ∀ id, .delete id ∉ steps) :
    Logs s (s.recorded steps) (s.perform steps) := by
  induction steps generalizing s with
  | nil => exact .none rfl rfl
  | cons x rest ih =>
      have hx (id : Int) : x ≠ .delete id := fun heq => h id (heq ▸ List.mem_cons_self)
      exact (step_logs hx).trans (ih fun id hmem => h id (List.mem_cons_of_mem x hmem))

-- ### Views

-- The rows that are not about what is looked at do not show.
theorem filter_rowsFrom {p : LogRow → Bool} (h : ∀ e ∈ entries, ∀ id, p (e.1.row id e.2) = false)
    (id : Int) : (rowsFrom id entries).filter p = [] := by
  induction entries generalizing id with
  | nil => rfl
  | cons e rest ih =>
      rw [rowsFrom, List.filter_cons_of_neg]
      · exact ih (fun f hf => h f (List.mem_cons_of_mem e hf)) _
      · rw [h e List.mem_cons_self]
        exact Bool.false_ne_true

theorem Logs.filter_eq {p : LogRow → Bool} (h : Logs s entries t)
    (hnone : ∀ e ∈ entries, ∀ id, p (e.1.row id e.2) = false) :
    t.logs.filter p = s.logs.filter p := by
  rw [h.rows, List.filter_append, filter_rowsFrom hnone, List.append_nil]

theorem made_subset (s : Store) (op : Operation) : s.made (.ask op) ⊆ op.entries := by
  rw [made]
  split
  · exact List.Subset.refl _
  · exact List.nil_subset _

theorem spiderLogs_eq (s : Store) (spider : Int) (limit : Nat) : s.spiderLogs spider limit =
    ((s.logs.filter (·.spider == spider)).reverse.take limit).map LogRow.read := by
  rw [spiderLogs, List.filter_reverse]

-- What a spider's entries and an execution's entries are, and that they agree on what they share.
structure ShowsLog (s : Store) : Prop where
  ofSpider : ∀ spider limit, s.step (.ask (.spiderLogs spider limit)) = (.ok (.logs
    (((s.logs.filter (·.spider == spider)).reverse.take limit).map LogRow.read)), s)
  ofExecution : ∀ execution, s.step (.ask (.executionLogs execution)) =
    (.ok (.logs ((s.logs.filter (·.execution == some execution)).map LogRow.read)), s)
  agree : ∀ spider execution limit, s.logs.length ≤ limit →
    (s.spiderLogs spider limit).reverse.filter (·.execution == some execution) =
      (s.executionLogs execution).filter (·.spider == spider)

-- What is noted about others does not show, and neither does the end of another spider.
structure SparesOthers (s : Store) : Prop where
  ofSpider : ∀ op spider limit, (∀ e ∈ op.entries, e.1.spider ≠ spider) →
    (s.step (.ask op)).2.spiderLogs spider limit = s.spiderLogs spider limit
  deleted : ∀ other spider limit, other ≠ spider →
    (s.step (.delete other)).2.spiderLogs spider limit = s.spiderLogs spider limit
  ofExecution : ∀ op execution, (∀ e ∈ op.entries, e.1.execution ≠ some execution) →
    (s.step (.ask op)).2.executionLogs execution = s.executionLogs execution

theorem showsLog (s : Store) : s.ShowsLog := by
  refine ⟨fun spider limit => ?_, fun execution => ?_, fun spider execution limit hlimit => ?_⟩
  · rw [step_ask, Operation.apply, spiderLogs_eq]
    rfl
  · rw [step_ask]
    rfl
  · have hall : (s.logs.filter (·.spider == spider)).reverse.length ≤ limit := by
      rw [List.length_reverse]
      exact Nat.le_trans (List.length_filter_le ..) hlimit
    rw [spiderLogs_eq, List.take_of_length_le hall, ← List.map_reverse, List.reverse_reverse,
      executionLogs, List.filter_map, List.filter_map, List.filter_filter, List.filter_filter]
    refine congrArg (List.map LogRow.read) (List.filter_congr fun r _ => ?_)
    rw [Function.comp_apply, Function.comp_apply, Bool.and_comm]
    rfl

theorem sparesOthers (s : Store) : s.SparesOthers := by
  have hlogs (op : Operation) : Logs s (s.made (.ask op)) (s.step (.ask op)).2 := step_logs nofun
  refine ⟨fun op spider limit h => ?_, fun other spider limit h => ?_, fun op execution h => ?_⟩
  · rw [spiderLogs_eq, spiderLogs_eq, (hlogs op).filter_eq fun e he id => ?_]
    exact beq_false_of_ne (h e (made_subset s op he))
  · have hrows : (s.delete other).logs.filter (·.spider == spider) =
        s.logs.filter (·.spider == spider) := by
      rw [delete, List.filter_filter]
      refine List.filter_congr fun r _ => ?_
      by_cases hr : r.spider = spider
      · simp [hr, h.symm]
      · simp [hr]
    rw [spiderLogs_eq, spiderLogs_eq, step, hrows]
  · rw [executionLogs, executionLogs, (hlogs op).filter_eq fun e he id => ?_]
    exact beq_false_of_ne (h e (made_subset s op he))

-- The log of a history is the entries that were made in its course, in their order and numbered
-- upwards, and both views show it.
theorem keeps_log :
    (∀ (s : Store) (steps : List Step), (∀ id, .delete id ∉ steps) →
      (s.perform steps).logs = s.logs ++ rowsFrom (s.lastLog + 1) (s.recorded steps)) ∧
    (∀ steps : List Step, ((empty.perform steps).logs.map (·.id)).Pairwise (· < ·)) ∧
    ∀ s : Store, s.ShowsLog ∧ s.SparesOthers := by
  refine ⟨fun s steps h => (perform_logs h).rows, fun steps => ?_,
    fun s => ⟨s.showsLog, s.sparesOthers⟩⟩
  exact ((Consistent.empty.perform steps).numbered .logs).ordered

def heard (spider : Int) (message execution : String) : NewLog :=
  ⟨spider, .info, .spiderOutput, message, some execution⟩

-- Two spiders and two executions, and a batch that fails at its second entry.
def twoLogs : List Step :=
  [newsCreated, .ask (.create ⟨"shop", none, "", "null"⟩),
    .ask (.appendLog ⟨1, 0⟩ (heard 1 "one" "a")),
    .ask (.appendLogs [(heard 1 "lost" "a", ⟨2, 0⟩), (heard 7 "nowhere" "a", ⟨3, 0⟩)]),
    .ask (.appendLogs [(heard 2 "two" "b", ⟨4, 0⟩), (heard 1 "three" "a", ⟨5, 0⟩)]), .reopen]

theorem keeps_log_shared :
    (empty.perform twoLogs).logs = rowsFrom 1 [(heard 1 "one" "a", ⟨1, 0⟩),
      (heard 2 "two" "b", ⟨4, 0⟩), (heard 1 "three" "a", ⟨5, 0⟩)] ∧
    ((empty.perform twoLogs).spiderLogs 1 5).reverse.filter (·.execution == some "a") =
      ((empty.perform twoLogs).executionLogs "a").filter (·.spider == 1) ∧
    ((empty.perform twoLogs).step (.ask (.appendLog ⟨6, 0⟩ (heard 2 "four" "b")))).2.spiderLogs
      1 5 = (empty.perform twoLogs).spiderLogs 1 5 ∧
    ((empty.perform twoLogs).step (.delete 2)).2.spiderLogs 1 5 =
      (empty.perform twoLogs).spiderLogs 1 5 ∧
    ((empty.perform twoLogs).step (.ask (.appendLog ⟨6, 0⟩ (heard 2 "four" "b")))).2.executionLogs
      "a" = (empty.perform twoLogs).executionLogs "a" := by
  obtain ⟨hgrows, -, hviews⟩ := keeps_log
  obtain ⟨hshows, hspares⟩ := hviews (empty.perform twoLogs)
  have hlogs : (empty.perform twoLogs).logs = rowsFrom 1 [(heard 1 "one" "a", ⟨1, 0⟩),
      (heard 2 "two" "b", ⟨4, 0⟩), (heard 1 "three" "a", ⟨5, 0⟩)] :=
    hgrows empty twoLogs (by simp [twoLogs, newsCreated])
  have hlength : (empty.perform twoLogs).logs.length ≤ 5 := by
    rw [hlogs]
    decide
  exact ⟨hlogs, hshows.agree 1 "a" 5 hlength,
    hspares.ofSpider _ 1 5 (by simp [Operation.entries, heard]),
    hspares.deleted 2 1 5 (by decide),
    hspares.ofExecution _ "a" (by simp [Operation.entries, heard])⟩

end Store

end Spiderworks
