import Mathlib.Data.List.Pairwise
import Spiderworks.Proofs.Store.Changes

namespace Spiderworks.Store

inductive Table where
  | spiders
  | logs
  | files

namespace Table

def ids : Table → Store → List Int
  | .spiders, s => s.spiders.map (·.id)
  | .logs, s => s.logs.map (·.id)
  | .files, s => s.files.map (·.id)

-- The last id that the table has given out.
def last : Table → Store → Int
  | .spiders, s => s.lastSpider
  | .logs, s => s.lastLog
  | .files, s => s.lastFile

-- The ids that have appeared in the table in the course of a history, one step after the other.
def assigned (k : Table) (s : Store) : List Step → List Int
  | [] => []
  | x :: rest =>
    (k.ids (s.step x).2).filter (· ∉ k.ids s) ++ assigned k (s.step x).2 rest

structure Numbered (k : Table) (s : Store) : Prop where
  ordered : (k.ids s).Pairwise (· < ·)
  known : ∀ i ∈ k.ids s, i ≤ k.last s

-- The table may lose rows, and gets new ones at its end with ids that it has not given out yet.
def Grows (k : Table) (s t : Store) : Prop :=
  ∃ new : List Int, (k.ids t).Sublist (k.ids s ++ new) ∧ new.Pairwise (· < ·) ∧
    (∀ i ∈ new, k.last s < i ∧ i ≤ k.last t) ∧ k.last s ≤ k.last t

variable {k : Table} {s t u : Store}

namespace Grows

theorem of_sublist (hids : (k.ids t).Sublist (k.ids s)) (hlast : k.last s ≤ k.last t) :
    k.Grows s t :=
  ⟨[], by rwa [List.append_nil], .nil, nofun, hlast⟩

theorem of_eq (hids : k.ids t = k.ids s) (hlast : k.last t = k.last s) : k.Grows s t :=
  of_sublist (hids ▸ .refl _) (Int.le_of_eq hlast.symm)

theorem one (hids : k.ids t = k.ids s ++ [k.last s + 1]) (hlast : k.last t = k.last s + 1) :
    k.Grows s t := by
  refine ⟨[k.last s + 1], hids ▸ .refl _, List.pairwise_singleton .., fun i hi => ?_, by omega⟩
  rw [List.mem_singleton] at hi
  omega

theorem refl (k : Table) (s : Store) : k.Grows s s := of_eq rfl rfl

theorem trans (h : k.Grows s t) (h' : k.Grows t u) : k.Grows s u := by
  obtain ⟨new, hids, hnew, hlast, hle⟩ := h
  obtain ⟨newer, hids', hnewer, hlast', hle'⟩ := h'
  refine ⟨new ++ newer, ?_, ?_, fun i hi => ?_, Int.le_trans hle hle'⟩
  · rw [← List.append_assoc]
    exact hids'.trans (hids.append (.refl newer))
  · refine List.pairwise_append.mpr ⟨hnew, hnewer, fun i hi j hj => ?_⟩
    have hi := hlast i hi
    have hj := hlast' j hj
    omega
  · rcases List.mem_append.mp hi with hi | hi
    · have hi := hlast i hi
      omega
    · have hi := hlast' i hi
      omega

theorem le (h : k.Grows s t) : k.last s ≤ k.last t :=
  have ⟨_, _, _, _, hle⟩ := h
  hle

theorem numbered (h : k.Grows s t) (hs : k.Numbered s) : k.Numbered t := by
  obtain ⟨new, hids, hnew, hlast, hle⟩ := h
  constructor
  · refine (List.pairwise_append.mpr ⟨hs.ordered, hnew, fun i hi j hj => ?_⟩).sublist hids
    exact Int.lt_of_le_of_lt (hs.known i hi) (hlast j hj).1
  · intro i hi
    rcases List.mem_append.mp (hids.subset hi) with hi | hi
    · exact Int.le_trans (hs.known i hi) hle
    · exact (hlast i hi).2

-- What appears in the table is new to it.
theorem appeared (h : k.Grows s t) :
    ((k.ids t).filter (· ∉ k.ids s)).Pairwise (· < ·) ∧
      ∀ i ∈ (k.ids t).filter (· ∉ k.ids s), k.last s < i ∧ i ≤ k.last t := by
  obtain ⟨new, hids, hnew, hlast, -⟩ := h
  have hsub : ((k.ids t).filter (· ∉ k.ids s)).Sublist new := by
    have hkept := hids.filter (· ∉ k.ids s)
    have hnone : (k.ids s).filter (· ∉ k.ids s) = [] := by simp
    rw [List.filter_append, hnone, List.nil_append] at hkept
    exact hkept.trans List.filter_sublist
  exact ⟨hnew.sublist hsub, fun i hi => hlast i (hsub.subset hi)⟩

end Grows

-- ### One step

theorem grows_change (h : Change s t) : k.Grows s t := by
  cases h with
  | created n _ =>
      cases k with
      | spiders => exact .one (by simp [ids, last, Store.created]) rfl
      | logs | files => exact .of_eq rfl rfl
  | changed id f hid _ =>
      cases k with
      | spiders => exact .of_eq (Store.rewrite_ids hid s.spiders) rfl
      | logs | files => exact .of_eq rfl rfl
  | logged now n _ =>
      cases k with
      | logs => exact .one (by simp [ids, last, Store.logged]) rfl
      | spiders | files => exact .of_eq rfl rfl
  | set key value => cases k <;> exact .of_eq rfl rfl

theorem grows_step (k : Table) (s : Store) (x : Step) : k.Grows s (s.step x).2 := by
  have h := s.step_moves x
  generalize (s.step x).1 = r, (s.step x).2 = t at h
  cases h with
  | quiet x r hchanges =>
      induction hchanges with
      | refl => exact .refl k s
      | tail _ hchange ih => exact ih.trans (grows_change hchange)
  | known now hrow =>
      cases k with
      | files => exact .of_sublist (.refl _) (Int.le_of_lt (Int.lt_succ s.lastFile))
      | spiders | logs => exact .of_eq rfl rfl
  | filed now hid hrow =>
      cases k with
      | files => exact .one (by simp [ids, last, Store.filed, NewFile.row]) rfl
      | spiders | logs => exact .of_eq rfl rfl
  | deleted id =>
      cases k with
      | spiders | logs | files => exact .of_sublist (List.filter_sublist.map _) (Int.le_refl _)

theorem assigned_after (k : Table) (s : Store) (steps : List Step) :
    (k.assigned s steps).Pairwise (· < ·) ∧ ∀ i ∈ k.assigned s steps, k.last s < i := by
  induction steps generalizing s with
  | nil => exact ⟨.nil, nofun⟩
  | cons x rest ih =>
      have hgrows := k.grows_step s x
      obtain ⟨hnew, hlast⟩ := hgrows.appeared
      obtain ⟨hlater, hafter⟩ := ih (s.step x).2
      constructor
      · refine List.pairwise_append.mpr ⟨hnew, hlater, fun i hi j hj => ?_⟩
        exact Int.lt_of_le_of_lt (hlast i hi).2 (hafter j hj)
      · intro i hi
        rcases List.mem_append.mp hi with hi | hi
        · exact (hlast i hi).1
        · exact Int.lt_of_le_of_lt hgrows.le (hafter i hi)

end Table

end Spiderworks.Store
