import Spiderworks.Proofs.XPath.Ascending

namespace Spiderworks.XPath

open Spiderworks.Page (Copy)

-- The rows from the number `n` on.
def Outline.Holds (o : Outline) (n : Nat) (rs : List Row) : Prop :=
  ∀ i r, rs[i]? = some r → o.row (n + i) = r

variable {o : Outline} {n m next parent : Nat} {as bs rs : List Row} {r : Row} {c : Copy}
  {path : List Nat} {name : String} {attributes : List (String × String)} {children : List Copy}

namespace Outline.Holds

theorem append : o.Holds n (as ++ bs) ↔ o.Holds n as ∧ o.Holds (n + as.length) bs := by
  constructor
  · intro h
    refine ⟨fun i r hi => h i r ?_, fun i r hi => ?_⟩
    · rwa [List.getElem?_append_left (List.getElem?_eq_some_iff.mp hi).1]
    · rw [Nat.add_assoc]
      refine h (as.length + i) r ?_
      rwa [List.getElem?_append_right (Nat.le_add_right ..), Nat.add_sub_cancel_left]
  · rintro ⟨ha, hb⟩ i r hi
    by_cases hlt : i < as.length
    · rw [List.getElem?_append_left hlt] at hi
      exact ha i r hi
    · rw [List.getElem?_append_right (Nat.not_lt.mp hlt)] at hi
      have hplace : n + as.length + (i - as.length) = n + i := by omega
      rw [← hplace]
      exact hb _ r hi

theorem cons : o.Holds n (r :: rs) ↔ o.row n = r ∧ o.Holds (n + 1) rs := by
  have hone : o.Holds n [r] ↔ o.row n = r := by
    refine ⟨fun h => h 0 r rfl, fun h i t hi => ?_⟩
    cases i with
    | zero =>
        cases hi
        exact h
    | succ i => cases hi
  rw [← hone, ← List.singleton_append, append, List.length_singleton]

theorem mem (h : o.Holds n rs) (hm : m ∈ List.range' n rs.length) : o.row m ∈ rs := by
  obtain ⟨hle, hlt⟩ := List.mem_range'_1.mp hm
  obtain ⟨i, rfl⟩ := Nat.exists_eq_add_of_le hle
  have hi : rs[i]? = some rs[i] := List.getElem?_eq_getElem (by omega)
  rw [h i _ hi]
  exact List.getElem_mem _

end Outline.Holds

theorem holds_all {rs : List Row} (ho : o.rows = rs.toArray) : o.Holds 0 rs := by
  intro i r hi
  rw [row_eq ho, Nat.zero_add, hi, Option.getD_some]

-- ### Children and attributes

-- Where the rows of siblings begin.
def starts (next : Nat) : List Copy → List Nat
  | [] => []
  | c :: cs => next :: starts (next + size c) cs

-- The first row of a copy is that of the copy itself, all others belong to what is at or below it.
theorem exists_rows_eq (parent next : Nat) (c : Copy) : ∃ r rest, rows parent next c = r :: rest ∧
    r.parent = parent ∧ (∀ t ∈ rest, next ≤ t.parent) ∧
      ((∃ path name, r.kind = .element path name) ∨ ∃ s, r.kind = .text s) := by
  cases c with
  | element path name attributes children =>
      refine ⟨_, _, rows.eq_1 .., rfl, ?_, .inl ⟨path, name, rfl⟩⟩
      refine List.forall_mem_cons.mpr ⟨Nat.le_refl _, List.forall_mem_append.mpr ⟨?_, ?_⟩⟩
      · exact fun r hr => (parent_of_mem_attributeRows hr).ge
      · intro r hr
        have hr := parent_of_mem_rowsOf next (next + 2 + attributes.length) children r hr
        omega
  | text s => exact ⟨_, [], rfl, rfl, nofun, .inr ⟨s, rfl⟩⟩

-- A child is a row that belongs to the parent and is no attribute.
def Outline.isChild (o : Outline) (n m : Nat) : Bool := (o.row m).parent == n && !o.isAside m

theorem filter_rows (h : o.Holds next (rows n next c)) (hlt : n < next) :
    (List.range' next (size c)).filter (o.isChild n) = [next] := by
  obtain ⟨r, rest, hrows, hparent, hrest, hkind⟩ := exists_rows_eq n next c
  have hsize : size c = rest.length + 1 := by rw [← length_rows n next c, hrows, List.length_cons]
  rw [hrows, Outline.Holds.cons] at h
  have hfirst : o.isChild n next = true := by
    rcases hkind with ⟨path, name, hkind⟩ | ⟨s, hkind⟩ <;>
      simp [Outline.isChild, Outline.isAside, h.1, hkind, hparent]
  have hothers : ∀ m ∈ List.range' (next + 1) rest.length, ¬o.isChild n m = true := by
    intro m hm
    have hle := hrest _ (h.2.mem hm)
    have hne : (o.row m).parent ≠ n := by omega
    simp [Outline.isChild, hne]
  rw [hsize, List.range'_succ, List.filter_cons_of_pos hfirst, List.filter_eq_nil_iff.mpr hothers]

theorem filter_rowsOf {cs : List Copy} (h : o.Holds next (rowsOf n next cs)) (hlt : n < next) :
    (List.range' next (sizes cs)).filter (o.isChild n) = starts next cs := by
  induction cs generalizing next with
  | nil => rfl
  | cons c rest ih =>
      rw [rowsOf, Outline.Holds.append, length_rows] at h
      rw [sizes, List.range'_append_1.symm, List.filter_append, filter_rows h.1 hlt,
        ih h.2 (by omega)]
      rfl

-- The rows of an element, taken apart.
theorem holds_element (h : o.Holds n (rows parent n (.element path name attributes children))) :
    o.row n = ⟨.element path name, parent, n + 2 + attributes.length + sizes children⟩ ∧
      (o.row (n + 1)).kind = .namespace ∧
      o.Holds (n + 2) (attributeRows n (n + 2) attributes) ∧
      o.Holds (n + 2 + attributes.length)
        (rowsOf n (n + 2 + attributes.length) children) := by
  rw [rows, Outline.Holds.cons, Outline.Holds.cons, Outline.Holds.append,
    length_attributeRows] at h
  obtain ⟨hrow, hnamespace, hattributes, hchildren⟩ := h
  exact ⟨hrow, by rw [hnamespace], hattributes, hchildren⟩

theorem span_element (n attributes children : Nat) :
    Outline.span (n + 1) (n + 2 + attributes + children) = (n + 1) ::
      (List.range' (n + 2) attributes ++ List.range' (n + 2 + attributes) children) := by
  have hlength : n + 2 + attributes + children - (n + 1) = attributes + children + 1 := by omega
  rw [Outline.span, hlength, List.range'_succ, List.range'_append_1]

theorem children_of_holds (h : o.Holds n (rows parent n (.element path name attributes children))) :
    o.children n = starts (n + 2 + attributes.length) children := by
  obtain ⟨hrow, hnamespace, hattributes, hchildren⟩ := holds_element h
  have hfirst : ¬o.isChild n (n + 1) = true := by
    simp [Outline.isChild, Outline.isAside, hnamespace]
  have hasides : ∀ m ∈ List.range' (n + 2) attributes.length, ¬o.isChild n m = true := by
    intro m hm
    rw [← length_attributeRows n (n + 2) attributes] at hm
    obtain ⟨name, value, hkind⟩ := kind_of_mem_attributeRows (hattributes.mem hm)
    simp [Outline.isChild, Outline.isAside, hkind]
  rw [Outline.children, Outline.descendants, List.filter_filter, hrow, span_element]
  change List.filter (o.isChild n) _ = _
  rw [List.filter_cons_of_neg hfirst, List.filter_append, List.filter_eq_nil_iff.mpr hasides,
    List.nil_append]
  exact filter_rowsOf hchildren (by omega)

theorem kind_of_mem_rowsOf {cs : List Copy} (hlt : n < next) (hr : r ∈ rowsOf n next cs)
    (hparent : r.parent = n) : ∀ name value, r.kind ≠ .attribute name value := by
  induction cs generalizing next with
  | nil => cases hr
  | cons c rest ih =>
      rcases List.mem_append.mp hr with hr | hr
      · obtain ⟨first, others, hrows, -, hothers, hkind⟩ := exists_rows_eq n next c
        rw [hrows] at hr
        rcases List.mem_cons.mp hr with rfl | hr
        · rcases hkind with ⟨path, name, hkind⟩ | ⟨s, hkind⟩ <;> simp [hkind]
        · have hle := hothers r hr
          omega
      · exact ih (by omega) hr

theorem attributes_of_holds
    (h : o.Holds n (rows parent n (.element path name attributes children))) :
    o.attributes n = List.range' (n + 2) attributes.length := by
  obtain ⟨hrow, hnamespace, hattributes, hchildren⟩ := holds_element h
  rw [Outline.attributes, hrow, span_element, List.filter_cons_of_neg (by simp [hnamespace]),
    List.filter_append, List.filter_eq_self.mpr, List.filter_eq_nil_iff.mpr, List.append_nil]
  · intro m hm hattribute
    rw [← length_rowsOf n (n + 2 + attributes.length) children] at hm
    obtain ⟨hparent, hkind⟩ := Bool.and_eq_true_iff.mp hattribute
    have hnot := kind_of_mem_rowsOf (by omega) (hchildren.mem hm) (beq_iff_eq.mp hparent)
    split at hkind
    · rename_i name value hname
      exact hnot name value hname
    · cases hkind
  · intro m hm
    rw [← length_attributeRows n (n + 2) attributes] at hm
    have hmem := hattributes.mem hm
    obtain ⟨name, value, hkind⟩ := kind_of_mem_attributeRows hmem
    simp [hkind, parent_of_mem_attributeRows hmem]

theorem map_attributes (h : o.Holds next (attributeRows parent next attributes)) :
    (List.range' next attributes.length).map (fun m => (o.name m, o.string m)) = attributes := by
  induction attributes generalizing next with
  | nil => rfl
  | cons a rest ih =>
      rw [attributeRows, Outline.Holds.cons] at h
      rw [List.length_cons, List.range'_succ, List.map_cons, ih h.2, Outline.name, Outline.string,
        h.1]

end Spiderworks.XPath
