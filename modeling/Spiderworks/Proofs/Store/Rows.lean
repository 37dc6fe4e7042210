import Mathlib.Data.List.Induction
import Mathlib.Data.List.Nodup
import Spiderworks.Proofs.Store.Ids

namespace Spiderworks.Store

open Relation (ReflTransGen)
open Time (Instant)

-- ### What always holds

structure Consistent (s : Store) : Prop where
  names : (s.spiders.map (·.name)).Nodup
  paths : (s.files.map fun r => (r.spider, r.path)).Nodup
  keys : (s.settings.map (·.1)).Nodup
  logs : ∀ r ∈ s.logs, s.has r.spider = true
  files : ∀ r ∈ s.files, s.has r.spider = true
  numbered : ∀ k : Table, k.Numbered s

variable {s t : Store} {x : Step} {now : Instant} {n : NewFile} {row : FileRow}

-- A row at the end whose view no other row has.
theorem nodup_concat {α β : Type} {view : α → β} {rows : List α} {r : α}
    (h : (rows.map view).Nodup) (hnew : ∀ q ∈ rows, view q ≠ view r) :
    ((rows ++ [r]).map view).Nodup := by
  rw [List.map_append]
  refine List.nodup_append.mpr ⟨h, List.nodup_singleton _, fun v hv w hw => ?_⟩
  obtain ⟨q, hq, rfl⟩ := List.mem_map.mp hv
  rw [List.mem_singleton.mp hw]
  exact hnew q hq

theorem fileRow?_eq_none_iff {spider : Int} {path : String} :
    s.fileRow? spider path = none ↔ ∀ r ∈ s.files, r.spider = spider → r.path ≠ path := by
  simp [fileRow?]

-- The row of a file that is found is its only row.
theorem Consistent.fileRow?_eq_some_iff (hs : s.Consistent) {spider : Int} {path : String} :
    s.fileRow? spider path = some row ↔
      row ∈ s.files ∧ row.spider = spider ∧ row.path = path := by
  have hfound {r : FileRow} (h : s.fileRow? spider path = some r) :
      r ∈ s.files ∧ r.spider = spider ∧ r.path = path :=
    ⟨List.mem_of_find?_eq_some h, by simpa using List.find?_some h⟩
  refine ⟨hfound, fun ⟨hrow, hspider, hpath⟩ => ?_⟩
  cases h : s.fileRow? spider path with
  | none => exact absurd hpath (fileRow?_eq_none_iff.mp h row hrow hspider)
  | some other =>
      obtain ⟨hmem, hspider', hpath'⟩ := hfound h
      have hpair : (other.spider, other.path) = (row.spider, row.path) := by
        rw [hspider, hpath, hspider', hpath']
      rw [List.inj_on_of_nodup_map hs.paths hmem hrow hpair]

namespace Consistent

theorem empty : Store.empty.Consistent :=
  have hnumbered (k : Table) : k.Numbered Store.empty := by
    cases k <;> exact ⟨.nil, List.forall_mem_nil _⟩
  ⟨.nil, .nil, .nil, List.forall_mem_nil _, List.forall_mem_nil _, hnumbered⟩

theorem change (hs : s.Consistent) (h : Change s t) : t.Consistent := by
  have hnumbered (k : Table) : k.Numbered t := (Table.grows_change h).numbered (hs.numbered k)
  cases h with
  | created n hnew =>
      have hhas {id : Int} (hid : s.has id = true) : (s.created n).has id = true := by
        rw [has, created, List.any_append, Bool.or_eq_true]
        exact .inl hid
      exact ⟨nodup_concat hs.names hnew, hs.paths, hs.keys, fun r hr => hhas (hs.logs r hr),
        fun r hr => hhas (hs.files r hr), hnumbered⟩
  | changed id f hid hname =>
      have hhas (a : Int) : (s.change id f).has a = s.has a := has_change hid s id a
      refine ⟨?_, hs.paths, hs.keys, fun r hr => (hhas _).trans (hs.logs r hr),
        fun r hr => (hhas _).trans (hs.files r hr), hnumbered⟩
      exact (rewrite_view hname s.spiders).symm ▸ hs.names
  | logged now n hn =>
      refine ⟨hs.names, hs.paths, hs.keys, ?_, hs.files, hnumbered⟩
      exact List.forall_mem_append.mpr ⟨hs.logs, List.forall_mem_singleton.mpr hn⟩
  | set key value =>
      refine ⟨hs.names, hs.paths, nodup_concat ?_ fun r hr => ?_, hs.logs, hs.files, hnumbered⟩
      · exact hs.keys.sublist (List.filter_sublist.map _)
      · simpa using (List.mem_filter.mp hr).2

theorem filed (hs : s.Consistent) (now : Instant) (hid : s.has n.spider = true)
    (hrow : s.fileRow? n.spider n.path = none)
    (hnumbered : ∀ k : Table, k.Numbered (s.filed now n)) : (s.filed now n).Consistent := by
  refine ⟨hs.names, nodup_concat hs.paths fun r hr heq => ?_, hs.keys, hs.logs, ?_, hnumbered⟩
  · obtain ⟨hspider, hpath⟩ := Prod.ext_iff.mp heq
    exact fileRow?_eq_none_iff.mp hrow r hr hspider hpath
  · exact List.forall_mem_append.mpr ⟨hs.files, List.forall_mem_singleton.mpr hid⟩

-- The rows of a spider go with it, and no others.
theorem delete (hs : s.Consistent) (id : Int) (hnumbered : ∀ k : Table, k.Numbered (s.delete id)) :
    (s.delete id).Consistent := by
  have hhas {a : Int} (ha : s.has a = true) (hne : a ≠ id) : (s.delete id).has a = true := by
    obtain ⟨r, hr, rfl⟩ := List.mem_map.mp (has_iff.mp ha)
    exact has_iff.mpr (List.mem_map_of_mem (List.mem_filter.mpr ⟨hr, by simpa using hne⟩))
  refine ⟨hs.names.sublist (List.filter_sublist.map _),
    hs.paths.sublist (List.filter_sublist.map _), hs.keys, fun r hr => ?_, fun r hr => ?_,
    hnumbered⟩
  · obtain ⟨hr, hne⟩ := List.mem_filter.mp hr
    exact hhas (hs.logs r hr) (by simpa using hne)
  · obtain ⟨hr, hne⟩ := List.mem_filter.mp hr
    exact hhas (hs.files r hr) (by simpa using hne)

theorem step (hs : s.Consistent) (x : Step) : (s.step x).2.Consistent := by
  have hnumbered (k : Table) : k.Numbered (s.step x).2 :=
    (k.grows_step s x).numbered (hs.numbered k)
  have h := s.step_moves x
  generalize (s.step x).1 = r, (s.step x).2 = t at h hnumbered
  cases h with
  | quiet x r hchanges =>
      clear hnumbered
      induction hchanges with
      | refl => exact hs
      | tail _ hchange ih => exact ih.change hchange
  | known now hrow => exact ⟨hs.names, hs.paths, hs.keys, hs.logs, hs.files, hnumbered⟩
  | filed now hid hrow => exact hs.filed now hid hrow hnumbered
  | deleted id => exact hs.delete id hnumbered

theorem perform (hs : s.Consistent) (steps : List Step) : (s.perform steps).Consistent := by
  induction steps generalizing s with
  | nil => exact hs
  | cons x rest ih => exact ih (hs.step x)

end Consistent

-- ### Files

-- The step registers a file for this spider and path.
def Registers (s : Store) (x : Step) (spider : Int) (path : String) : Prop :=
  ∃ now n id, x = .ask (.registerFile now n) ∧ (s.step x).1 = .ok (.number id) ∧
    n.spider = spider ∧ n.path = path

theorem files_changes (h : ReflTransGen Change s t) : t.files = s.files := by
  induction h with
  | refl => rfl
  | tail _ hchange ih => cases hchange <;> exact ih

-- The rows of files come from registrations, and stay until their spider is deleted.
theorem mem_files_step (hrow : row ∈ (s.step x).2.files) :
    row ∈ s.files ∨ s.Registers x row.spider row.path := by
  unfold Registers
  have h := s.step_moves x
  generalize (s.step x).1 = r, (s.step x).2 = t at h hrow ⊢
  cases h with
  | quiet x r hchanges => exact .inl (files_changes hchanges ▸ hrow)
  | known now hknown => exact .inl hrow
  | filed now hid hnew =>
      rcases List.mem_append.mp hrow with hrow | hrow
      · exact .inl hrow
      · rw [List.mem_singleton.mp hrow]
        exact .inr ⟨_, _, _, rfl, rfl, rfl, rfl⟩
  | deleted id => exact .inl (List.mem_filter.mp hrow).1

theorem mem_files_kept (hrow : row ∈ s.files) (hx : x ≠ .delete row.spider) :
    row ∈ (s.step x).2.files := by
  have h := s.step_moves x
  generalize (s.step x).1 = r, (s.step x).2 = t at h ⊢
  cases h with
  | quiet x r hchanges => exact files_changes hchanges ▸ hrow
  | known now hknown => exact hrow
  | filed now hid hnew => exact List.mem_append_left _ hrow
  | deleted id =>
      have hne : row.spider ≠ id := fun heq => hx (heq ▸ rfl)
      exact List.mem_filter.mpr ⟨hrow, by simpa using hne⟩

theorem mem_files_perform {steps : List Step} (hrow : row ∈ s.files)
    (hkept : .delete row.spider ∉ steps) : row ∈ (s.perform steps).files := by
  induction steps generalizing s with
  | nil => exact hrow
  | cons x rest ih =>
      have hx : x ≠ .delete row.spider := fun heq => hkept (heq ▸ List.mem_cons_self)
      exact ih (mem_files_kept hrow hx) fun hmem => hkept (List.mem_cons_of_mem x hmem)

theorem exists_registration {steps : List Step} (hrow : row ∈ (empty.perform steps).files) :
    ∃ past x rest, steps = past ++ x :: rest ∧
      (empty.perform past).Registers x row.spider row.path := by
  induction steps using List.reverseRecOn with
  | nil => cases hrow
  | append_singleton past x ih =>
      rw [perform_append] at hrow
      rcases mem_files_step hrow with hrow | hx
      · obtain ⟨before, y, rest, rfl, hy⟩ := ih hrow
        exact ⟨before, y, rest ++ [x], by simp, hy⟩
      · exact ⟨past, x, [], rfl, hx⟩

-- The first registration of a file that succeeds, with the steps before and after it.
structure FirstRegistered (before : List Step) (now : Instant) (n : NewFile) (id : Int)
    (after : List Step) : Prop where
  registered : ((empty.perform before).step (.ask (.registerFile now n))).1 = .ok (.number id)
  first : ∀ past x rest, before = past ++ x :: rest →
    ¬(empty.perform past).Registers x n.spider n.path
  kept : .delete n.spider ∉ after

-- The file is found as it was registered, and registering it again answers the id that it has.
structure Keeps (s : Store) (now : Instant) (n : NewFile) (id : Int) : Prop where
  found : (s.step (.ask (.file n.spider n.path))).1 = .ok (.file (some ⟨id, n.spider, n.filename,
    n.path, n.kind, min n.size largestSize, n.execution, n.description, n.tags, now⟩))
  again : ∀ later m, m.spider = n.spider → m.path = n.path →
    (s.step (.ask (.registerFile later m))).1 = .ok (.number id)

theorem Consistent.keeps {id : Int} (hs : s.Consistent) (hrow : n.row id now ∈ s.files) :
    s.Keeps now n id := by
  constructor
  · have hfound : s.fileRow? n.spider n.path = some (n.row id now) :=
      hs.fileRow?_eq_some_iff.mpr ⟨hrow, rfl, rfl⟩
    simp only [step_ask, Operation.apply, file?, hfound, settled, Option.map_some]
    rw [n.read_row]
  · intro later m hspider hpath
    have hfound : s.fileRow? m.spider m.path = some (n.row id now) :=
      hs.fileRow?_eq_some_iff.mpr ⟨hrow, hspider.symm, hpath.symm⟩
    rw [step_registerFile_known later hfound]
    rfl

theorem FirstRegistered.keeps {before after : List Step} {id : Int}
    (h : FirstRegistered before now n id after) :
    (empty.perform (before ++ .ask (.registerFile now n) :: after)).Keeps now n id := by
  have hnew : (empty.perform before).fileRow? n.spider n.path = none := by
    refine fileRow?_eq_none_iff.mpr fun r hr hspider hpath => ?_
    obtain ⟨past, x, rest, heq, hx⟩ := exists_registration hr
    exact h.first past x rest heq (hspider ▸ hpath ▸ hx)
  have hregistered := h.registered
  rw [perform_append, perform_cons]
  cases hid : (empty.perform before).has n.spider with
  | false =>
      rw [step_registerFile_missing now hid hnew] at hregistered
      cases hregistered
  | true =>
      rw [step_registerFile_new now hid hnew] at hregistered ⊢
      cases hregistered
      refine Consistent.keeps ?_ (mem_files_perform ?_ h.kept)
      · have hstep := (Consistent.empty.perform before).step (.ask (.registerFile now n))
        rw [step_registerFile_new now hid hnew] at hstep
        exact hstep.perform after
      · exact List.mem_append_right _ (List.mem_singleton_self _)

theorem keeps_rows :
    (∀ steps : List Step, (empty.perform steps).Consistent ∧
      ∀ k : Table, (k.assigned empty steps).Pairwise (· < ·)) ∧
    ∀ (before : List Step) (now : Instant) (n : NewFile) (id : Int) (after : List Step),
      FirstRegistered before now n id after →
      (empty.perform (before ++ .ask (.registerFile now n) :: after)).Keeps now n id := by
  refine ⟨fun steps => ⟨Consistent.empty.perform steps, fun k => ?_⟩, fun _ _ _ _ _ h => h.keeps⟩
  exact (k.assigned_after empty steps).1

def listing (size : Nat) : NewFile :=
  ⟨1, "list.csv", "/files/list.csv", "csv", size, none, none, none⟩

def filing (seconds : Int) (size : Nat) : Step := .ask (.registerFile ⟨seconds, 0⟩ (listing size))

-- A registration that comes too early fails; the next one is the first, and a later one does not
-- change the size.
theorem keeps_rows_refiled :
    (empty.perform [filing 0 3, newsCreated, filing 1 5, filing 2 9, .delete 2, .reopen]).Keeps
      ⟨1, 0⟩ (listing 5) 1 := by
  refine keeps_rows.2 [filing 0 3, newsCreated] ⟨1, 0⟩ (listing 5) 1
    [filing 2 9, .delete 2, .reopen] ⟨rfl, ?_, by simp [filing, listing]⟩
  rintro past x rest heq ⟨now, n, id, hx, hok, -⟩
  match past with
  | [] =>
      cases heq
      have hearly : (empty.step (filing 0 3)).1 = .error .noSuchOwner := rfl
      exact nomatch hearly.symm.trans hok
  | [_] =>
      cases heq
      cases hx
  | _ :: _ :: _ => simp at heq

end Spiderworks.Store
