import Spiderworks.Disk.Basic

namespace Spiderworks.Disk

def comesBefore : List String → List String → Bool
  | [], _ => true
  | _ :: _, [] => false
  | a :: as, b :: bs => if a = b then comesBefore as bs else decide (a < b)

-- The names in a directory, in the order in which the disk lists them.
def names (d : Disk) (place : List String) : List String :=
  d.entries.filterMap fun e => if e.1.dropLast = place then e.1.getLast? else none

-- The places in a directory, in the order of their paths.
def children (d : Disk) (place : List String) : List (List String) :=
  ((d.names place).map fun name => place ++ [name]).mergeSort comesBefore

def holdsFile (d : Disk) (place : List String) : Bool :=
  match d.node? place with
  | some (.file _) => true
  | _ => false

def holdsDirectory (d : Disk) (place : List String) : Bool := d.node? place == some .directory

-- ### How long a walk can take

def depth (d : Disk) : Nat := (d.entries.map (·.1.length)).foldr max 0

-- More than there is in any tree that begins in this directory.
def room (d : Disk) (place : List String) : Nat :=
  Nat.pow (d.entries.length + 1) (d.depth - place.length)

def roomAll (d : Disk) : List (List String) → Nat
  | [] => 0
  | place :: rest => d.room place + d.roomAll rest

theorem length_le_depth {d : Disk} {e : List String × Node} (he : e ∈ d.entries) :
    e.1.length ≤ d.depth := by
  unfold depth
  generalize d.entries = entries at he
  induction entries with
  | nil => cases he
  | cons first rest ih =>
      rw [List.map_cons, List.foldr_cons]
      rcases List.mem_cons.mp he with rfl | he
      · exact Nat.le_max_left ..
      · exact Nat.le_trans (ih he) (Nat.le_max_right ..)

theorem mem_names_iff {d : Disk} {place : List String} {name : String} :
    name ∈ d.names place ↔ ∃ n, (place ++ [name], n) ∈ d.entries := by
  rw [names, List.mem_filterMap]
  constructor
  · rintro ⟨⟨p, n⟩, he, hname⟩
    split at hname
    · rename_i hplace
      have hne : p ≠ [] := by
        rintro rfl
        cases hname
      have hlast : p.getLast hne = name := by
        rw [List.getLast?_eq_some_getLast hne] at hname
        exact Option.some.inj hname
      refine ⟨n, ?_⟩
      rw [← hplace, ← hlast, List.dropLast_concat_getLast]
      exact he
    · cases hname
  · rintro ⟨n, he⟩
    exact ⟨_, he, by simp⟩

theorem mem_children_iff {d : Disk} {place p : List String} :
    p ∈ d.children place ↔ ∃ name ∈ d.names place, p = place ++ [name] := by
  rw [children, List.mem_mergeSort, List.mem_map]
  constructor
  · rintro ⟨name, hname, rfl⟩
    exact ⟨name, hname, rfl⟩
  · rintro ⟨name, hname, rfl⟩
    exact ⟨name, hname, rfl⟩

theorem length_children_le (d : Disk) (place : List String) :
    (d.children place).length ≤ d.entries.length := by
  rw [children, List.length_mergeSort, List.length_map]
  exact List.length_filterMap_le ..

theorem room_child (d : Disk) (place : List String) (name : String) : d.room (place ++ [name]) =
    Nat.pow (d.entries.length + 1) (d.depth - (place.length + 1)) := by
  rw [room, List.length_append, List.length_singleton]

theorem roomAll_append (d : Disk) (ps qs : List (List String)) :
    d.roomAll (ps ++ qs) = d.roomAll ps + d.roomAll qs := by
  induction ps with
  | nil => exact (Nat.zero_add _).symm
  | cons p rest ih => rw [List.cons_append, roomAll, roomAll, ih, Nat.add_assoc]

theorem roomAll_le {d : Disk} {bound : Nat} {ps : List (List String)}
    (h : ∀ p ∈ ps, d.room p ≤ bound) : d.roomAll ps ≤ ps.length * bound := by
  induction ps with
  | nil => exact Nat.zero_le _
  | cons p rest ih =>
      have hp := h p List.mem_cons_self
      have hrest := ih fun q hq => h q (List.mem_cons_of_mem p hq)
      rw [roomAll, List.length_cons, Nat.succ_mul]
      omega

-- A directory has more room than all that is in it.
theorem roomAll_lt {d : Disk} {place : List String} {ps : List (List String)}
    (hlength : ps.length ≤ d.entries.length) (hps : ∀ p ∈ ps, p ∈ d.children place) :
    d.roomAll ps < d.room place := by
  by_cases hnone : ps = []
  · subst hnone
    exact Nat.pow_pos (Nat.succ_pos _)
  · obtain ⟨p, hp⟩ := List.exists_mem_of_ne_nil ps hnone
    obtain ⟨name, hname, rfl⟩ := mem_children_iff.mp (hps p hp)
    obtain ⟨n, he⟩ := mem_names_iff.mp hname
    have hdeep : place.length + 1 ≤ d.depth := by
      simpa using length_le_depth he
    have hroom : d.room place = d.room (place ++ [name]) * (d.entries.length + 1) := by
      have hone : d.depth - place.length = d.depth - (place.length + 1) + 1 := by omega
      rw [room, hone, room_child]
      rfl
    have hsum : d.roomAll ps ≤ ps.length * d.room (place ++ [name]) := by
      refine roomAll_le fun q hq => ?_
      obtain ⟨other, -, rfl⟩ := mem_children_iff.mp (hps q hq)
      exact Nat.le_of_eq (by rw [room_child, room_child])
    have hpos : 0 < d.room (place ++ [name]) := Nat.pow_pos (Nat.succ_pos _)
    rw [hroom, Nat.mul_comm]
    calc d.roomAll ps ≤ ps.length * d.room (place ++ [name]) := hsum
      _ ≤ d.entries.length * d.room (place ++ [name]) := Nat.mul_le_mul_right _ hlength
      _ < (d.entries.length + 1) * d.room (place ++ [name]) :=
          Nat.mul_lt_mul_of_pos_right (Nat.lt_succ_self _) hpos

-- ### The walk

-- The directory that was met last is looked into first. Links are neither listed nor followed.
def walkFiles (d : Disk) (files : List (List String)) : List (List String) → List (List String)
  | [] => files
  | place :: pending =>
    walkFiles d (files ++ (d.children place).filter d.holdsFile)
      (((d.children place).filter d.holdsDirectory).reverse ++ pending)
termination_by pending => d.roomAll pending
decreasing_by
  have hlength :
      ((d.children place).filter d.holdsDirectory).reverse.length ≤ d.entries.length := by
    rw [List.length_reverse]
    exact Nat.le_trans (List.length_filter_le ..) (d.length_children_le place)
  have hroom := roomAll_lt hlength fun p hp => (List.mem_filter.mp (List.mem_reverse.mp hp)).1
  rw [roomAll_append, roomAll]
  omega

-- The regular files below a place in the order of their paths, each by the parts of its path from
-- there on.
def filesBelow (d : Disk) (place : List String) : List (List String) :=
  ((d.walkFiles [] [place]).mergeSort comesBefore).map (·.drop place.length)

end Spiderworks.Disk
