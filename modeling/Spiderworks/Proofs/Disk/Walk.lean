import Mathlib.Data.List.Nodup
import Spiderworks.Disk.Walk

namespace Spiderworks.Disk

-- What stands at the end of a way down from a place. All but the end of it are directories.
inductive Meets (d : Disk) : List String → List String → Node → Prop
  | entry {place : List String} {name : String} {n : Node} :
      d.node? (place ++ [name]) = some n → Meets d place [name] n
  | deeper {place way : List String} {name : String} {n : Node} :
      d.node? (place ++ [name]) = some .directory → Meets d (place ++ [name]) way n →
      Meets d place (name :: way) n

variable {d d' : Disk} {place p way : List String} {name : String} {n : Node}
  {files pending : List (List String)}

theorem mem_of_node? (hne : place ≠ []) (h : d.node? place = some n) : (place, n) ∈ d.entries := by
  have hempty : place.isEmpty = false := by simpa using hne
  rw [node?, hempty] at h
  obtain ⟨e, he, rfl⟩ := Option.map_eq_some_iff.mp h
  have hplace : e.1 = place := by simpa using List.find?_some he
  exact hplace ▸ List.mem_of_find?_eq_some he

theorem exists_node?_iff : (∃ n, d.node? (place ++ [name]) = some n) ↔ name ∈ d.names place := by
  rw [mem_names_iff]
  constructor
  · rintro ⟨n, h⟩
    exact ⟨n, mem_of_node? (by simp) h⟩
  · rintro ⟨n, he⟩
    have hfound : (d.entries.find? (·.1 == place ++ [name])).isSome :=
      List.find?_isSome.mpr ⟨_, he, by simp⟩
    obtain ⟨e, he⟩ := Option.isSome_iff_exists.mp hfound
    exact ⟨e.2, by simp [node?, he]⟩

theorem node?_eq_some_iff (hd : (d.entries.map (·.1)).Nodup) (hne : place ≠ []) :
    d.node? place = some n ↔ (place, n) ∈ d.entries := by
  refine ⟨mem_of_node? hne, fun he => ?_⟩
  obtain ⟨name, hname⟩ : ∃ name, place = place.dropLast ++ [name] :=
    ⟨_, (List.dropLast_concat_getLast hne).symm⟩
  obtain ⟨m, hm⟩ := exists_node?_iff.mpr (mem_names_iff.mpr ⟨n, hname ▸ he⟩)
  rw [← hname] at hm
  have hpair := List.inj_on_of_nodup_map hd (mem_of_node? hne hm) he rfl
  exact hm.trans (congrArg some (Prod.ext_iff.mp hpair).2)

theorem holdsDirectory_iff : d.holdsDirectory place = true ↔ d.node? place = some .directory := by
  rw [holdsDirectory, beq_iff_eq]

theorem holdsFile_iff : d.holdsFile place = true ↔ ∃ bytes, d.node? place = some (.file bytes) := by
  unfold holdsFile
  split <;> simp_all

theorem mem_children_of_node? (h : d.node? (place ++ [name]) = some n) :
    place ++ [name] ∈ d.children place :=
  mem_children_iff.mpr ⟨name, exists_node?_iff.mp ⟨n, h⟩, rfl⟩

-- ### What the walk finds

-- The place of a regular file that is met on the way down from another place.
def Below (d : Disk) (place p : List String) : Prop :=
  ∃ way bytes, p = place ++ way ∧ d.Meets place way (.file bytes)

theorem below_iff (place p : List String) :
    d.Below place p ↔ p ∈ (d.children place).filter d.holdsFile ∨
    ∃ child ∈ (d.children place).filter d.holdsDirectory, d.Below child p := by
  simp only [List.mem_filter, holdsFile_iff, holdsDirectory_iff]
  constructor
  · rintro ⟨way, bytes, rfl, h⟩
    cases h with
    | entry h => exact .inl ⟨mem_children_of_node? h, bytes, h⟩
    | deeper hd h =>
        refine .inr ⟨_, ⟨mem_children_of_node? hd, hd⟩, _, bytes, ?_, h⟩
        rw [List.append_assoc, List.singleton_append]
  · rintro (⟨hchild, bytes, h⟩ | ⟨child, ⟨hchild, hd⟩, way, bytes, rfl, h⟩)
    · obtain ⟨name, -, rfl⟩ := mem_children_iff.mp hchild
      exact ⟨[name], bytes, rfl, .entry h⟩
    · obtain ⟨name, -, rfl⟩ := mem_children_iff.mp hchild
      refine ⟨name :: way, bytes, ?_, .deeper hd h⟩
      rw [List.append_assoc, List.singleton_append]

-- Nothing that is below a pending directory gets lost, and nothing else is taken up.
theorem mem_walkFiles_iff : p ∈ d.walkFiles files pending ↔
    p ∈ files ∨ ∃ place ∈ pending, d.Below place p := by
  fun_induction walkFiles d files pending with
  | case1 files => simp
  | case2 files place pending ih =>
      rw [ih]
      simp only [List.mem_append, List.mem_reverse, List.mem_cons, or_and_right, exists_or,
        exists_eq_left, or_assoc, below_iff place p]

theorem mem_filesBelow_iff :
    way ∈ d.filesBelow place ↔ ∃ bytes, d.Meets place way (.file bytes) := by
  have hdrop (way : List String) : (place ++ way).drop place.length = way := List.drop_left
  rw [filesBelow, List.mem_map]
  constructor
  · rintro ⟨p, hp, rfl⟩
    obtain ⟨way, bytes, rfl, h⟩ : d.Below place p := by
      simpa [mem_walkFiles_iff] using hp
    exact ⟨bytes, (hdrop way).symm ▸ h⟩
  · rintro ⟨bytes, h⟩
    refine ⟨place ++ way, ?_, hdrop way⟩
    rw [List.mem_mergeSort, mem_walkFiles_iff]
    exact .inr ⟨place, List.mem_singleton_self place, way, bytes, rfl, h⟩

-- The way leads to what is met.
theorem Meets.node? (h : d.Meets place way n) : d.node? (place ++ way) = some n := by
  induction h with
  | entry h => exact h
  | deeper _ _ ih => rwa [List.append_assoc] at ih

theorem Meets.ne_nil (h : d.Meets place way n) : way ≠ [] := by
  cases h <;> simp

-- ### The order in which a disk lists its entries

theorem comesBefore_total (a b : List String) : (comesBefore a b || comesBefore b a) = true := by
  induction a generalizing b with
  | nil => rfl
  | cons x a ih =>
      cases b with
      | nil => rfl
      | cons y b =>
          by_cases h : x = y
          · simpa [comesBefore, h] using ih b
          · have hle : x < y ∨ y < x := by
              rcases String.le_total x y with hxy | hyx
              · exact .inl (Std.lt_of_le_of_ne hxy h)
              · exact .inr (Std.lt_of_le_of_ne hyx (Ne.symm h))
            simpa [comesBefore, h, Ne.symm h] using hle

theorem comesBefore_antisymm {a b : List String} (hab : comesBefore a b = true)
    (hba : comesBefore b a = true) : a = b := by
  induction a generalizing b with
  | nil =>
      cases b with
      | nil => rfl
      | cons y b => cases hba
  | cons x a ih =>
      cases b with
      | nil => cases hab
      | cons y b =>
          by_cases h : x = y
          · simp only [comesBefore, h, ↓reduceIte] at hab hba
            rw [h, ih hab hba]
          · simp only [comesBefore, h, Ne.symm h, ↓reduceIte, decide_eq_true_eq] at hab hba
            exact absurd hba (String.lt_asymm hab)

theorem comesBefore_trans {a b c : List String} (hab : comesBefore a b = true)
    (hbc : comesBefore b c = true) : comesBefore a c = true := by
  induction a generalizing b c with
  | nil => rfl
  | cons x a ih =>
      cases b with
      | nil => cases hab
      | cons y b =>
          cases c with
          | nil => cases hbc
          | cons z c =>
              rw [comesBefore] at hab hbc ⊢
              by_cases hxy : x = y
              · subst hxy
                by_cases hxz : x = z
                · rw [if_pos hxz] at hbc ⊢
                  exact ih (by simpa using hab) hbc
                · rwa [if_neg hxz] at hbc ⊢
              · rw [if_neg hxy, decide_eq_true_eq] at hab
                have hlt : x < z := by
                  by_cases hyz : y = z
                  · rwa [← hyz]
                  · rw [if_neg hyz, decide_eq_true_eq] at hbc
                    exact String.lt_trans hab hbc
                have hne : x ≠ z := by
                  rintro rfl
                  exact String.lt_irrefl x hlt
                rw [if_neg hne]
                exact decide_eq_true hlt

theorem mergeSort_eq_of_perm {ps qs : List (List String)} (h : ps.Perm qs) :
    ps.mergeSort comesBefore = qs.mergeSort comesBefore := by
  have hsorted (l : List (List String)) :
      (l.mergeSort comesBefore).Pairwise fun a b => comesBefore a b = true :=
    @List.pairwise_mergeSort _ comesBefore (fun _ _ _ => comesBefore_trans) comesBefore_total l
  refine List.Perm.eq_of_pairwise (fun a b _ _ => comesBefore_antisymm) (hsorted ps) (hsorted qs) ?_
  exact (List.mergeSort_perm ps _).trans (h.trans (List.mergeSort_perm qs _).symm)

-- The same entries, in whatever order they are listed.
structure Relisted (d d' : Disk) : Prop where
  distinct : (d.entries.map (·.1)).Nodup
  entries : d.entries.Perm d'.entries

namespace Relisted

theorem symm (h : Relisted d d') : Relisted d' d :=
  ⟨(h.entries.map _).nodup_iff.mp h.distinct, h.entries.symm⟩

theorem node?_eq (h : Relisted d d') (place : List String) : d'.node? place = d.node? place := by
  by_cases hne : place = []
  · rw [hne]
    rfl
  · refine Option.ext fun n => ?_
    rw [node?_eq_some_iff h.symm.distinct hne, node?_eq_some_iff h.distinct hne]
    exact h.entries.mem_iff.symm

theorem children_eq (h : Relisted d d') (place : List String) :
    d'.children place = d.children place :=
  mergeSort_eq_of_perm ((h.entries.filterMap _).map _).symm

theorem walkFiles_eq (h : Relisted d d') (files pending : List (List String)) :
    d'.walkFiles files pending = d.walkFiles files pending := by
  have hfile : d'.holdsFile = d.holdsFile := by
    funext place
    rw [holdsFile, h.node?_eq, holdsFile]
  have hdirectory : d'.holdsDirectory = d.holdsDirectory := by
    funext place
    rw [holdsDirectory, h.node?_eq, holdsDirectory]
  fun_induction walkFiles d files pending with
  | case1 files => rw [walkFiles]
  | case2 files place pending ih => rw [walkFiles, h.children_eq, hfile, hdirectory, ih]

theorem filesBelow_eq (h : Relisted d d') (place : List String) :
    d'.filesBelow place = d.filesBelow place := by
  rw [filesBelow, h.walkFiles_eq, filesBelow]

end Relisted

end Spiderworks.Disk
