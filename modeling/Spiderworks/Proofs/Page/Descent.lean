import Spiderworks.Page.Spot

namespace Spiderworks.Page.Spot

-- The numbers of children lead from one spot down to another. Contents of templates are not
-- entered.
inductive Down : Spot → List Nat → Spot → Prop
  | here (s : Spot) : Down s [] s
  | child {s t : Spot} {way : List Nat} {level : Level} :
      s.here.children = level.left.reverse ++ .element level.element level.children :: level.right →
      Down ⟨level, s.here :: s.above, s.base⟩ way t → Down s (level.left.length :: way) t

variable {s t u : Spot} {way more : List Nat} {above : List Level} {base : Base}
  {left right ns : List Node} {level : Level} {n : Node}

namespace Down

theorem base_eq (h : Down s way t) : t.base = s.base := by
  induction h with
  | here => rfl
  | child _ _ ih => exact ih

theorem path?_eq (h : Down s way t) : t.path? = s.path?.map (· ++ way) := by
  induction h with
  | here s => simp
  | @child s t way level _ _ ih =>
      -- The first number is that of the root, so that none of those further down is dropped.
      have hnumbers : (((level :: s.here :: s.above).map (·.left.length)).reverse.drop 1) =
          ((s.here :: s.above).map (·.left.length)).reverse.drop 1 ++ [level.left.length] := by
        rw [List.map_cons, List.reverse_cons]
        exact List.drop_append_of_le_length (by simp)
      rw [ih]
      unfold path?
      cases s.base with
      | page =>
          simp only [hnumbers, Option.map_some, List.append_assoc, List.singleton_append]
      | loose | contents => rfl

theorem unique (h : Down s way t) (h' : Down s way u) : t = u := by
  induction h generalizing u with
  | here =>
      cases h'
      rfl
  | @child s t way level hlevel _ ih =>
      -- The number of the child says where the children are split.
      generalize hway : level.left.length :: way = full at h'
      cases h' with
      | here => cases hway
      | @child _ _ _ level' hlevel' h' =>
          obtain ⟨hlength, rfl⟩ := List.cons.inj hway
          have hsplit := hlevel.symm.trans hlevel'
          obtain ⟨hleft, hrest⟩ := List.append_inj hsplit (by simpa using hlength)
          have hsame : level = level' := by
            obtain ⟨e, children, left, right⟩ := level
            obtain ⟨e', children', left', right'⟩ := level'
            simp_all
          subst hsame
          exact ih h'

theorem split (h : Down s (way ++ more) t) : ∃ u, Down s way u ∧ Down u more t := by
  induction way generalizing s with
  | nil => exact ⟨s, .here s, h⟩
  | cons i way ih =>
      cases h with
      | child hlevel h =>
          obtain ⟨u, hu, ht⟩ := ih h
          exact ⟨u, .child hlevel hu, ht⟩

theorem trans (h : Down s way t) (h' : Down t more u) : Down s (way ++ more) u := by
  induction h with
  | here => exact h'
  | child hlevel _ ih => exact .child hlevel (ih h')

end Down

-- ### Spots in document order

theorem subset_ofNodes
    (h : left.reverse ++ ns =
      level.left.reverse ++ .element level.element level.children :: level.right)
    (hlength : left.length ≤ level.left.length) :
    (⟨level, above, base⟩ :: below ⟨level, above, base⟩) ⊆ ofNodes above base left ns := by
  induction ns generalizing left with
  | nil =>
      have hcount := congrArg List.length h
      simp at hcount
      omega
  | cons n rest ih =>
      rw [ofNodes]
      by_cases hhere : left.length = level.left.length
      · obtain ⟨hleft, hrest⟩ := List.append_inj h (by simpa using hhere)
        obtain ⟨rfl, rfl⟩ := List.cons.inj hrest
        rw [List.reverse_inj.mp hleft]
        exact List.subset_append_left ..
      · refine List.Subset.trans (ih ?_ ?_) (List.subset_append_right ..)
        · rw [List.reverse_cons, List.append_assoc, List.singleton_append]
          exact h
        · rw [List.length_cons]
          omega

theorem Down.mem (h : Down s way t) : t ∈ s :: s.below := by
  induction h with
  | here => exact List.mem_cons_self
  | @child s t way level hlevel _ ih =>
      have hsplit : [].reverse ++ s.here.children = _ := hlevel
      exact List.mem_cons_of_mem _ (subset_ofNodes hsplit (Nat.zero_le _) ih)

mutual
theorem down_of_mem_ofNode (above : List Level) (base : Base) (left right : List Node) (n : Node)
    (ht : t ∈ ofNode above base left right n) :
    t.base = .contents ∨ ∃ e children way, n = .element e children ∧
      Down ⟨⟨e, children, left, right⟩, above, base⟩ way t := by
  cases n with
  | element e children =>
      rcases List.mem_cons.mp ht with rfl | ht
      · exact .inr ⟨e, children, [], rfl, .here _⟩
      · rcases down_of_mem_ofNodes _ _ _ children ht with hbase | ⟨level, way, hlevel, hdown⟩
        · exact .inl hbase
        · exact .inr ⟨e, children, _, rfl, .child hlevel hdown⟩
  | contents children =>
      rcases down_of_mem_ofNodes [] .contents [] children ht with hbase | ⟨level, way, -, hdown⟩
      · exact .inl hbase
      · exact .inl hdown.base_eq
  | text s | comment s => cases ht
termination_by structural n

theorem down_of_mem_ofNodes (above : List Level) (base : Base) (left ns : List Node)
    (ht : t ∈ ofNodes above base left ns) :
    t.base = .contents ∨ ∃ level way, left.reverse ++ ns =
      level.left.reverse ++ .element level.element level.children :: level.right ∧
      Down ⟨level, above, base⟩ way t := by
  cases ns with
  | nil => cases ht
  | cons n rest =>
      rcases List.mem_append.mp ht with ht | ht
      · rcases down_of_mem_ofNode above base left rest n ht with
          hbase | ⟨e, children, way, hn, hdown⟩
        · exact .inl hbase
        · exact .inr ⟨⟨e, children, left, rest⟩, way, by rw [hn], hdown⟩
      · rcases down_of_mem_ofNodes above base (n :: left) rest ht with
          hbase | ⟨level, way, hlevel, hdown⟩
        · exact .inl hbase
        · refine .inr ⟨level, way, ?_, hdown⟩
          rwa [List.reverse_cons, List.append_assoc, List.singleton_append] at hlevel
termination_by structural ns
end

theorem down_of_mem_below (ht : t ∈ s :: s.below) : t.base = .contents ∨ ∃ way, Down s way t := by
  rcases List.mem_cons.mp ht with rfl | ht
  · exact .inr ⟨[], .here _⟩
  · rcases down_of_mem_ofNodes _ _ _ s.here.children ht with hbase | ⟨level, way, hlevel, hdown⟩
    · exact .inl hbase
    · exact .inr ⟨_, .child hlevel hdown⟩

end Spiderworks.Page.Spot

namespace Spiderworks.Page

variable {p : Page} {s t : Page.Spot} {path more : List Nat}

theorem base_of_mem_looseSpots (ns : List Page.Node) (hs : s ∈ looseSpots ns) : s.base ≠ .page := by
  induction ns with
  | nil => cases hs
  | cons n rest ih =>
      cases n with
      | element e children =>
          rcases List.mem_append.mp hs with hs | hs
          · rcases Spot.down_of_mem_ofNodes _ _ _ children hs with hbase | ⟨level, way, -, hdown⟩
            · simp [hbase]
            · simp [hdown.base_eq]
          · exact ih hs
      | contents | text | comment => exact ih hs

-- A spot that has a path is where its path leads from the root.
theorem down_of_path? (hs : s ∈ p.spots) (hpath : s.path? = some path) :
    Page.Spot.Down p.rootSpot path s := by
  have hbase : s.base = .page := by
    unfold Spot.path? at hpath
    split at hpath
    · assumption
    · cases hpath
  have hmem : s ∈ p.rootSpot :: p.rootSpot.below := by
    rcases List.mem_append.mp (List.mem_mergeSort.mp hs) with hmem | hloose
    · exact hmem
    · exact absurd hbase (base_of_mem_looseSpots _ hloose)
  rcases Spot.down_of_mem_below hmem with hcontents | ⟨way, hdown⟩
  · rw [hbase] at hcontents
    cases hcontents
  · have hway : s.path? = some way := hdown.path?_eq
    rw [hpath, Option.some.injEq] at hway
    exact hway ▸ hdown

theorem mem_below_of_path? (hs : s ∈ p.spots) (ht : t ∈ p.spots) (hpath : s.path? = some path)
    (hmore : t.path? = some (path ++ more)) : t ∈ s :: s.below := by
  obtain ⟨u, hu, hdown⟩ := (down_of_path? ht hmore).split
  rw [(down_of_path? hs hpath).unique hu]
  exact hdown.mem

end Spiderworks.Page
