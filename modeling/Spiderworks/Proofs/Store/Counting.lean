import Mathlib.Algebra.Group.Int.Defs
import Mathlib.Data.List.Nodup
import Spiderworks.Proofs.Store.Writes

namespace Spiderworks

variable {s : Store} {row : SpiderRow} {y : Spider} {id : Int}

inductive Counter where
  | runs
  | successes
  | errors

namespace Counter

variable {k : Counter} {now : Time.Instant}

def count (now : Time.Instant) (id : Int) : Counter → Query Unit
  | .runs => Query.countRun now id
  | .successes => Query.countSuccess id
  | .errors => Query.countError id

def value (y : Spider) : Counter → Nat
  | .runs => y.runs
  | .successes => y.successes
  | .errors => y.errors

def column : Counter → Nat
  | .runs => 9
  | .successes => 10
  | .errors => 11

-- A spider with one more in a counter.
def counted (now : Time.Instant) (y : Spider) : Counter → Spider
  | .runs => { y with runs := y.runs + 1, lastRun := some (String.ofList now.rfc3339) }
  | .successes => { y with successes := y.successes + 1 }
  | .errors => { y with errors := y.errors + 1 }

-- The row of a spider with one more in a counter.
def entry (now : Time.Instant) (k : Counter) (row : SpiderRow) : SpiderRow :=
  match k with
  | .runs => { row with runs := bump row.runs, lastRun := some (String.ofList now.rfc3339) }
  | .successes => { row with successes := bump row.successes }
  | .errors => { row with errors := bump row.errors }

theorem entry_id (now : Time.Instant) (k : Counter) (row : SpiderRow) :
    (k.entry now row).id = row.id := by
  cases k <;> rfl

theorem on_count (hid : s.has id = true) :
    (k.count now id).on s = (.ok (), s.change id (k.entry now)) := by
  have hcount : k.count now id = Query.update id (k.entry now) := by cases k <;> rfl
  have hupdate : s.update id (k.entry now) = .ok (s.change id (k.entry now)) := if_pos hid
  rw [hcount, Query.update_eq, Query.on_settle]
  simp only [hupdate, Except.map]

-- ### One row

theorem value_lt (h : row.read = .ok y) : k.value y < 2 ^ 32 := by
  have hy := SpiderRow.reads h
  cases k with
  | runs => exact (readCounter_eq_ok_iff.mp hy.runs).2
  | successes => exact (readCounter_eq_ok_iff.mp hy.successes).2
  | errors => exact (readCounter_eq_ok_iff.mp hy.errors).2

theorem readCounter_bump_of_lt {column n : Nat} {v : Int} (h : readCounter column v = .ok n)
    (hlt : n + 1 < 2 ^ 32) : readCounter column (bump v) = .ok (n + 1) :=
  readCounter_eq_ok_iff.mpr ⟨bump_of_readCounter h, hlt⟩

theorem readCounter_bump_of_largest {column n : Nat} {v : Int} (h : readCounter column v = .ok n)
    (hn : n = 2 ^ 32 - 1) :
    readCounter column (bump v) = .error (.outOfRange (2 ^ 32) column) := by
  rw [bump_of_readCounter h, hn]
  rfl

theorem read_entry_of_lt (h : row.read = .ok y) (hlt : k.value y + 1 < 2 ^ 32) :
    (k.entry now row).read = .ok (k.counted now y) := by
  have hy := SpiderRow.reads h
  have hfields := hy.fields
  rw [SpiderRow.read_eq_ok_iff]
  cases k with
  | runs =>
      exact ⟨readCounter_bump_of_lt hy.runs hlt, hy.successes, hy.errors, by rw [hfields]; rfl⟩
  | successes =>
      exact ⟨hy.runs, readCounter_bump_of_lt hy.successes hlt, hy.errors, by rw [hfields]; rfl⟩
  | errors =>
      exact ⟨hy.runs, hy.successes, readCounter_bump_of_lt hy.errors hlt, by rw [hfields]; rfl⟩

theorem read_entry_of_largest (h : row.read = .ok y) (hlargest : k.value y = 2 ^ 32 - 1) :
    (k.entry now row).read = .error (.outOfRange (2 ^ 32) k.column) := by
  have hy := SpiderRow.reads h
  cases k with
  | runs =>
      have hruns := readCounter_bump_of_largest hy.runs hlargest
      simp only [SpiderRow.read, entry, hruns]
      rfl
  | successes =>
      have hsuccesses := readCounter_bump_of_largest hy.successes hlargest
      simp only [SpiderRow.read, entry, hy.runs, hsuccesses]
      rfl
  | errors =>
      have herrors := readCounter_bump_of_largest hy.errors hlargest
      simp only [SpiderRow.read, entry, hy.runs, hy.successes, herrors]
      rfl

-- ### All rows

-- The rows of a list that can be read, each with its spider.
theorem reads_of_list {all : List Spider} (h : s.list = .ok all) :
    List.Forall₂ (fun row y => row ∈ s.spiders ∧ row.read = .ok y) s.spiders.reverse all := by
  rw [List.forall₂_and_left]
  exact ⟨fun row hrow => List.mem_reverse.mp hrow, mapM_eq_ok_iff.mp h⟩

theorem spiders_change (s : Store) (id : Int) (f : SpiderRow → SpiderRow) :
    (s.change id f).spiders.reverse =
      s.spiders.reverse.map fun row => if row.id = id then f row else row :=
  List.map_reverse.symm

theorem list_change_of_lt {all : List Spider} (distinct : (s.spiders.map (·.id)).Nodup)
    (hmem : row ∈ s.spiders) (hread : row.read = .ok y) (hlt : k.value y + 1 < 2 ^ 32)
    (hall : s.list = .ok all) : (s.change row.id (k.entry now)).list =
      .ok (all.map fun z => if z.id = row.id then k.counted now z else z) := by
  rw [Store.list, spiders_change, mapM_eq_ok_iff, List.forall₂_map_left_iff,
    List.forall₂_map_right_iff]
  refine (reads_of_list hall).imp fun other z ⟨hother, hz⟩ => ?_
  rw [SpiderRow.read_id hz]
  by_cases hid : other.id = row.id
  · obtain rfl : other = row := List.inj_on_of_nodup_map distinct hother hmem hid
    obtain rfl : y = z := Except.ok.inj (hread.symm.trans hz)
    simp only [↓reduceIte, read_entry_of_lt hread hlt]
  · simp only [hid, ↓reduceIte, hz]

theorem list_change_of_largest {all : List Spider} (distinct : (s.spiders.map (·.id)).Nodup)
    (hmem : row ∈ s.spiders) (hread : row.read = .ok y) (hlargest : k.value y = 2 ^ 32 - 1)
    (hall : s.list = .ok all) : (s.change row.id (k.entry now)).list =
      .error (.outOfRange (2 ^ 32) k.column) := by
  have hentry : (k.entry now row).read = .error (.outOfRange (2 ^ 32) k.column) :=
    read_entry_of_largest hread hlargest
  rw [Store.list, spiders_change]
  apply mapM_eq_error
  · intro changed hchanged
    obtain ⟨other, hother, rfl⟩ := List.mem_map.mp hchanged
    by_cases hid : other.id = row.id
    · obtain rfl : other = row :=
        List.inj_on_of_nodup_map distinct (List.mem_reverse.mp hother) hmem hid
      simp only [↓reduceIte, hentry, true_or]
    · simp only [hid, ↓reduceIte]
      exact .inr (exists_ok_of_mapM hall hother)
  · exact ⟨_, List.mem_map_of_mem (List.mem_reverse.mpr hmem), by simp only [↓reduceIte, hentry]⟩

-- ### Counting

-- What is expected after `k` has gone up for the spider `y`: its record is read again with one more
-- in this counter, and so is the list, if it could be read before.
structure Shows (now : Time.Instant) (k : Counter) (y : Spider) (s t : Store) : Prop where
  read : t.spider? y.id = .ok (some (k.counted now y))
  listed : ∀ all, s.list = .ok all →
    t.list = .ok (all.map fun z => if z.id = y.id then k.counted now z else z)

-- A counter goes up, and no other spider changes. It shows exactly when it was not yet at the most
-- that 32 bits can hold.
theorem shows_iff (k : Counter) (now : Time.Instant) (distinct : (s.spiders.map (·.id)).Nodup)
    (h : s.spider? id = .ok (some y)) : ∃ t, (k.count now id).on s = (.ok (), t) ∧
      (∀ b, b ≠ id → t.spider? b = s.spider? b) ∧
      (k.Shows now y s t ↔ k.value y ≠ 2 ^ 32 - 1) ∧
      (k.value y = 2 ^ 32 - 1 → t.spider? id = .error (.outOfRange (2 ^ 32) k.column) ∧
        ∀ all, s.list = .ok all → t.list = .error (.outOfRange (2 ^ 32) k.column)) := by
  obtain ⟨rfl, hid⟩ := Store.spider?_eq_some h
  obtain ⟨row, hmem, hrow, hread, hspider⟩ := Store.spider?_change_self (k.entry_id now) h
  have hlost (hlargest : k.value y = 2 ^ 32 - 1) : (s.change y.id (k.entry now)).spider? y.id =
      .error (.outOfRange (2 ^ 32) k.column) := by
    rw [hspider, read_entry_of_largest hread hlargest]
    rfl
  refine ⟨s.change y.id (k.entry now), on_count hid,
    fun b hb => Store.spider?_change_other (k.entry_id now) s hb, ⟨?_, fun hne => ⟨?_, ?_⟩⟩,
    fun hlargest => ⟨hlost hlargest, ?_⟩⟩
  · intro hshows hlargest
    cases hshows.read.symm.trans (hlost hlargest)
  · have hlt := value_lt (k := k) hread
    rw [hspider, read_entry_of_lt hread (by omega)]
    rfl
  · intro all hall
    have hlt := value_lt (k := k) hread
    rw [← hrow]
    exact list_change_of_lt distinct hmem hread (by omega) hall
  · intro all hall
    rw [← hrow]
    exact list_change_of_largest distinct hmem hread hlargest hall

-- Two spiders; the first one has run `runs` times.
def twoSpiders (runs : Int) : Store :=
  { Store.empty with
    spiders := [⟨1, "a", none, "c", "inactive", "\x7b\x7d", none, runs, 0, 0⟩,
      ⟨2, "b", none, "c", "inactive", "\x7b\x7d", none, 0, 0, 0⟩]
    lastSpider := 2 }

def first (lastRun : Option String) (runs : Nat) : Spider :=
  ⟨1, "a", none, "c", .inactive, "\x7b\x7d", lastRun, runs, 0, 0⟩

def second : Spider := ⟨2, "b", none, "c", .inactive, "\x7b\x7d", none, 0, 0, 0⟩

theorem shows_last : ∃ t,
    (Counter.runs.count ⟨0, 0⟩ 1).on (twoSpiders 4294967294) = (.ok (), t) ∧
    t.spider? 1 = .ok (some (first (some "1970-01-01T00:00:00+00:00") 4294967295)) ∧
    t.list = .ok [second, first (some "1970-01-01T00:00:00+00:00") 4294967295] := by
  have hfound : (twoSpiders 4294967294).spider? 1 = .ok (some (first none 4294967294)) := by rfl
  obtain ⟨t, hcount, -, hiff, -⟩ := shows_iff .runs ⟨0, 0⟩ (by decide) hfound
  have hshows := hiff.mpr (by decide)
  exact ⟨t, hcount, hshows.read, hshows.listed [second, first none 4294967294] (by rfl)⟩

-- One run more, and there is no list of spiders.
theorem shows_not : ∃ t,
    (Counter.runs.count ⟨0, 0⟩ 1).on (twoSpiders 4294967295) = (.ok (), t) ∧
    (twoSpiders 4294967295).spider? 1 = .ok (some (first none 4294967295)) ∧
    (twoSpiders 4294967295).list = .ok [second, first none 4294967295] ∧
    t.spider? 1 = .error (.outOfRange 4294967296 9) ∧
    t.list = .error (.outOfRange 4294967296 9) := by
  exact ⟨_, rfl, rfl, rfl, rfl, rfl⟩

end Counter

end Spiderworks
