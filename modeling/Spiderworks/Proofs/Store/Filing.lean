import Mathlib.Data.List.Nodup
import Spiderworks.Proofs.Store.Changes

namespace Spiderworks

open Time (Instant)

namespace Store

-- The store has got these rows in addition, for files that it did not know.
structure Acquires (s : Store) (rows : List FileRow) (t : Store) : Prop where
  store : t = { s with files := s.files ++ rows, lastFile := s.lastFile + rows.length }
  distinct : (rows.map fun r => (r.spider, r.path)).Nodup
  unknown : ∀ row ∈ rows, s.fileRow? row.spider row.path = none

variable {s t u : Store} {rows more : List FileRow} {row : FileRow} {n : NewFile} {spider : Int}
  {path : String}

namespace Acquires

theorem nothing (s : Store) : s.Acquires [] s :=
  ⟨by rw [List.append_nil, List.length_nil, Int.ofNat_zero, Int.add_zero], .nil,
    List.forall_mem_nil _⟩

theorem filed (now : Instant) (h : s.fileRow? n.spider n.path = none) :
    s.Acquires [n.row (s.lastFile + 1) now] (s.filed now n) :=
  ⟨rfl, List.nodup_singleton _, List.forall_mem_singleton.mpr h⟩

theorem fileRow?_eq (h : s.Acquires rows t) (spider : Int) (path : String) :
    t.fileRow? spider path = (s.fileRow? spider path).or
      (rows.find? fun r => r.spider == spider && r.path == path) := by
  rw [h.store, fileRow?, List.find?_append]
  rfl

theorem kept (h : s.Acquires rows t) (hrow : s.fileRow? spider path = some row) :
    t.fileRow? spider path = some row := by
  rw [h.fileRow?_eq, hrow, Option.some_or]

theorem unknown_of_unknown (h : s.Acquires rows t) (hrow : t.fileRow? spider path = none) :
    s.fileRow? spider path = none := by
  rw [h.fileRow?_eq, Option.or_eq_none_iff] at hrow
  exact hrow.1

-- What is known now was known before, or is one of the new rows.
theorem cases (h : s.Acquires rows t) (hrow : t.fileRow? spider path = some row) :
    s.fileRow? spider path = some row ∨
      s.fileRow? spider path = none ∧ row ∈ rows ∧ row.spider = spider ∧ row.path = path := by
  rw [h.fileRow?_eq] at hrow
  cases hknown : s.fileRow? spider path with
  | some known =>
      rw [hknown] at hrow
      exact .inl hrow
  | none =>
      rw [hknown, Option.none_or] at hrow
      exact .inr ⟨rfl, List.mem_of_find?_eq_some hrow, by simpa using List.find?_some hrow⟩

theorem find (h : s.Acquires rows t) (hrow : row ∈ rows) :
    t.fileRow? row.spider row.path = some row := by
  have hsome : (rows.find? fun r => r.spider == row.spider && r.path == row.path).isSome :=
    List.find?_isSome.mpr ⟨row, hrow, by simp⟩
  obtain ⟨other, hother⟩ := Option.isSome_iff_exists.mp hsome
  have hsame : other.spider = row.spider ∧ other.path = row.path := by
    simpa using List.find?_some hother
  have heq : other = row := List.inj_on_of_nodup_map h.distinct (List.mem_of_find?_eq_some hother)
    hrow (Prod.ext hsame.1 hsame.2)
  rw [h.fileRow?_eq, h.unknown row hrow, Option.none_or, hother, heq]

theorem trans (h : s.Acquires rows t) (h' : t.Acquires more u) : s.Acquires (rows ++ more) u := by
  refine ⟨?_, ?_, ?_⟩
  · rw [h'.store, h.store, List.length_append, Int.natCast_add, ← Int.add_assoc,
      ← List.append_assoc]
  · rw [List.map_append]
    refine List.nodup_append.mpr ⟨h.distinct, h'.distinct, fun a ha b hb heq => ?_⟩
    obtain ⟨row, hrow, rfl⟩ := List.mem_map.mp ha
    obtain ⟨other, hother, rfl⟩ := List.mem_map.mp hb
    rw [Prod.mk.injEq] at heq
    have hnone := h'.unknown other hother
    rw [← heq.1, ← heq.2, h.find hrow] at hnone
    cases hnone
  · exact List.forall_mem_append.mpr ⟨h.unknown,
      fun row hrow => h.unknown_of_unknown (h'.unknown row hrow)⟩

theorem eq_of_nil (h : s.Acquires [] t) : t = s := by
  rw [h.store, List.append_nil, List.length_nil, Int.ofNat_zero, Int.add_zero]

-- A file that is known gets no second row.
theorem countP_le (h : s.Acquires rows t) (spider : Int) (path : String) :
    t.files.countP (fun r => r.spider == spider && r.path == path) ≤
      max 1 (s.files.countP fun r => r.spider == spider && r.path == path) := by
  have hfiles : t.files = s.files ++ rows := by rw [h.store]
  have hone : rows.countP (fun r => r.spider == spider && r.path == path) ≤ 1 := by
    have hcount := List.nodup_iff_count_le_one.mp h.distinct (spider, path)
    rwa [List.count, List.countP_map] at hcount
  rw [hfiles, List.countP_append]
  cases hrow : s.fileRow? spider path with
  | none =>
      have hzero := List.countP_eq_zero.mpr (List.find?_eq_none.mp hrow)
      omega
  | some row =>
      have hzero : rows.countP (fun r => r.spider == spider && r.path == path) = 0 := by
        refine List.countP_eq_zero.mpr fun r hr hsame => ?_
        obtain ⟨rfl, rfl⟩ : r.spider = spider ∧ r.path = path := by simpa using hsame
        rw [h.unknown r hr] at hrow
        cases hrow
      omega

end Acquires

theorem registerFile_unknown (now : Instant) (hid : s.has n.spider = true)
    (hrow : s.fileRow? n.spider n.path = none) :
    s.registerFile now n = .ok (s.lastFile + 1, s.filed now n) := by
  simp only [registerFile, hrow, hid]
  rfl

end Store

-- ### Registering a file

variable {s t : SharedStore} {now : Instant} {n : NewFile} {new : Bool}

-- What comes of a file that is to be registered unless it is known.
inductive SharedStore.Registers (s : SharedStore) (now : Instant) (n : NewFile) :
    Except StoreError Bool → SharedStore → Prop
  | failed (e : StoreError) (asked : Nat) : Registers s now n (.error e) { s with asked := asked }
  | known {row : FileRow} (asked : Nat) (hrow : s.store.fileRow? n.spider n.path = some row)
      (hgranted : s.Granted [.findFile] { s with asked := asked }) :
      Registers s now n (.ok false) { s with asked := asked }
  | new (asked : Nat) (hrow : s.store.fileRow? n.spider n.path = none)
      (hid : s.store.has n.spider = true)
      (hgranted : s.Granted [.findFile, .registerFile]
        { s with asked := asked, store := s.store.filed now n }) :
      Registers s now n (.ok true) { s with asked := asked, store := s.store.filed now n }

theorem SharedStore.registers (s : SharedStore) (now : Instant) (n : NewFile) :
    s.Registers now n (s.run (Ingest.registerNew now n)).1
      (s.run (Ingest.registerNew now n)).2 := by
  rw [Ingest.registerNew, run_bind, Session.file?_eq, run_look]
  cases hlook : s.refusal s.asked .findFile with
  | some reason => exact .failed _ _
  | none =>
      have hfirst := Granted.one hlook s.store
      cases hrow : s.store.fileRow? n.spider n.path with
      | some row =>
          simp only [Store.file?, hrow, Option.map_some, Option.isSome_some, ↓reduceIte]
          exact .known _ hrow hfirst
      | none =>
          simp only [Store.file?, hrow, Option.map_none, Option.isSome_none, Bool.false_eq_true,
            ↓reduceIte, run_bind, Session.registerFile_eq, run_attempt]
          cases hask : s.refusal (s.asked + 1) .registerFile with
          | some reason => exact .failed _ _
          | none =>
              cases hid : s.store.has n.spider with
              | false =>
                  simp only [Store.registerFile, hrow, hid, Bool.false_eq_true, ↓reduceIte]
                  exact .failed _ _
              | true =>
                  simp only [Store.registerFile_unknown now hid hrow]
                  exact .new _ hrow hid (hfirst.trans (.one hask _))

theorem SharedStore.registers_of_run {result : Except StoreError Bool}
    (h : s.run (Ingest.registerNew now n) = (result, t)) : s.Registers now n result t := by
  have hregisters := s.registers now n
  rwa [h] at hregisters

-- Whether it was new or not, the file is known afterwards.
theorem SharedStore.acquires_of_registerNew
    (h : s.run (Ingest.registerNew now n) = (.ok new, t)) :
    ∃ rows, s.store.Acquires rows t.store ∧ rows.length = new.toNat ∧
      (∀ row ∈ rows, ∃ id, row = n.row id now) ∧
      ∃ row, t.store.fileRow? n.spider n.path = some row := by
  cases SharedStore.registers_of_run h with
  | known _ hrow _ => exact ⟨[], .nothing _, rfl, List.forall_mem_nil _, _, hrow⟩
  | new _ hrow _ _ =>
      have hfiled := Store.Acquires.filed now hrow
      have hfound := hfiled.find (List.mem_singleton_self _)
      exact ⟨_, hfiled, rfl, List.forall_mem_singleton.mpr ⟨_, rfl⟩, _, hfound⟩

end Spiderworks
