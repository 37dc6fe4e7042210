import Spiderworks.Proofs.Page.Copying
import Spiderworks.XPath.Outline

namespace Spiderworks.XPath

open Spiderworks.Page (Copy)

-- An element that may stand below another one has a path that begins with the other's.
def Kind.Leads (outer inner : Kind) : Prop :=
  ∀ p name q name', outer = .element p name → inner = .element q name' → p <+: q

-- Rows from the number `next` on, each with the rows below it behind it.
structure Nested (next : Nat) (rs : List Row) : Prop where
  ends : ∀ i r, rs[i]? = some r → next + i < r.finish ∧ r.finish ≤ next + rs.length
  inside : ∀ i j r t, rs[i]? = some r → rs[j]? = some t → i < j → next + j < r.finish →
    t.finish ≤ r.finish ∧ r.kind.Leads t.kind

variable {next parent index : Nat} {as bs rs : List Row} {r t : Row} {k : Kind} {path : List Nat}

namespace Nested

theorem nil (next : Nat) : Nested next [] := ⟨nofun, nofun⟩

theorem leaf (next parent : Nat) (k : Kind) : Nested next [⟨k, parent, next + 1⟩] := by
  constructor
  · intro i r hi
    cases i with
    | zero =>
        cases hi
        exact ⟨Nat.lt_succ_self next, Nat.le_refl _⟩
    | succ i => cases hi
  · intro i j r t hi hj hij
    cases j with
    | zero => omega
    | succ j => cases hj

theorem append (ha : Nested next as) (hb : Nested (next + as.length) bs) :
    Nested next (as ++ bs) := by
  -- A row of the second list has its place and its end counted from the first row of all.
  have hsecond {i : Nat} (hi : as.length ≤ i) :
      next + as.length + (i - as.length) = next + i := by omega
  constructor
  · intro i r hi
    rw [List.length_append]
    by_cases hlt : i < as.length
    · rw [List.getElem?_append_left hlt] at hi
      have h := ha.ends i r hi
      omega
    · rw [List.getElem?_append_right (Nat.not_lt.mp hlt)] at hi
      have h := hb.ends _ r hi
      rw [hsecond (Nat.not_lt.mp hlt)] at h
      omega
  · intro i j r t hi hj hij hfinish
    by_cases hlt : i < as.length
    · rw [List.getElem?_append_left hlt] at hi
      have hend := (ha.ends i r hi).2
      have hlt' : j < as.length := by omega
      rw [List.getElem?_append_left hlt'] at hj
      exact ha.inside i j r t hi hj hij hfinish
    · have hlt' : as.length ≤ j := by omega
      rw [List.getElem?_append_right (Nat.not_lt.mp hlt)] at hi
      rw [List.getElem?_append_right hlt'] at hj
      refine hb.inside _ _ r t hi hj (by omega) ?_
      rwa [hsecond hlt']

-- A row in front of all that is below it.
theorem cons (hrs : Nested (next + 1) rs) (hfinish : r.finish = next + 1 + rs.length)
    (hleads : ∀ t ∈ rs, r.kind.Leads t.kind) : Nested next (r :: rs) := by
  constructor
  · intro i t hi
    rw [List.length_cons]
    cases i with
    | zero =>
        cases hi
        omega
    | succ i =>
        have h := hrs.ends i t hi
        omega
  · intro i j r' t hi hj hij hin
    cases j with
    | zero => omega
    | succ j =>
        rw [List.getElem?_cons_succ] at hj
        cases i with
        | zero =>
            cases hi
            have h := (hrs.ends j t hj).2
            exact ⟨by omega, hleads t (List.mem_of_getElem? hj)⟩
        | succ i =>
            rw [List.getElem?_cons_succ] at hi
            exact hrs.inside i j r' t hi hj (by omega) (by omega)

end Nested

-- ### The rows of a copy

theorem length_attributeRows (parent next : Nat) (attributes : List (String × String)) :
    (attributeRows parent next attributes).length = attributes.length := by
  induction attributes generalizing next with
  | nil => rfl
  | cons a rest ih => rw [attributeRows, List.length_cons, ih, List.length_cons]

mutual
theorem length_rows (parent next : Nat) (c : Copy) : (rows parent next c).length = size c := by
  cases c with
  | element path name attributes children =>
      rw [rows, size, List.length_cons, List.length_cons, List.length_append,
        length_attributeRows, length_rowsOf]
      omega
  | text s => rfl
termination_by structural c

theorem length_rowsOf (parent next : Nat) (cs : List Copy) :
    (rowsOf parent next cs).length = sizes cs := by
  cases cs with
  | nil => rfl
  | cons c rest => rw [rowsOf, sizes, List.length_append, length_rows, length_rowsOf]
termination_by structural cs
end

theorem rowsOf_append (parent next : Nat) (cs ds : List Copy) :
    rowsOf parent next (cs ++ ds) =
      rowsOf parent next cs ++ rowsOf parent (next + sizes cs) ds := by
  induction cs generalizing next with
  | nil => rfl
  | cons c rest ih =>
      rw [List.cons_append, rowsOf, ih, rowsOf, sizes, List.append_assoc, Nat.add_assoc]

theorem nested_attributeRows (parent next : Nat) (attributes : List (String × String)) :
    Nested next (attributeRows parent next attributes) := by
  induction attributes generalizing next with
  | nil => exact .nil next
  | cons a rest ih => exact (Nested.leaf next parent _).append (ih (next + 1))

theorem kind_of_mem_attributeRows {attributes : List (String × String)}
    (hr : r ∈ attributeRows parent next attributes) :
    ∃ name value, r.kind = .attribute name value := by
  induction attributes generalizing next with
  | nil => cases hr
  | cons a rest ih =>
      rcases List.mem_cons.mp hr with rfl | hr
      · exact ⟨a.1, a.2, rfl⟩
      · exact ih hr

-- No row is that of the document, and all elements have paths that begin in this way.
def Under (path : List Nat) (rs : List Row) : Prop :=
  ∀ r ∈ rs, r.kind ≠ .root ∧ ∀ q name, r.kind = .element q name → path <+: q

theorem Under.append (ha : Under path as) (hb : Under path bs) : Under path (as ++ bs) :=
  List.forall_mem_append.mpr ⟨ha, hb⟩

theorem Under.leads {name : String} (h : Under path rs) (hk : k = .element path name) :
    ∀ t ∈ rs, k.Leads t.kind := by
  intro t ht p name q name' houter hinner
  rw [hk] at houter
  cases houter
  exact (h t ht).2 q name' hinner

theorem Under.of_append {more : List Nat} (h : Under (path ++ more) rs) : Under path rs :=
  fun r hr => ⟨(h r hr).1, fun q name hq => (List.prefix_append ..).trans ((h r hr).2 q name hq)⟩

mutual
theorem nested_ofNode (parent next : Nat) (path : List Nat) (n : Page.Node) :
    Nested next (rowsOf parent next (Copy.ofNode path n)) ∧
      Under path (rowsOf parent next (Copy.ofNode path n)) := by
  cases n with
  | element e children =>
      obtain ⟨hnested, hunder⟩ :=
        nested_ofNodes next (next + 2 + e.pairs.length) path 0 children
      have hrest : Under path (⟨.namespace, next, next + 2⟩ ::
          (attributeRows next (next + 2) e.pairs ++
            rowsOf next (next + 2 + e.pairs.length) (Copy.ofNodes path 0 children))) := by
        refine List.forall_mem_cons.mpr ⟨⟨nofun, nofun⟩, Under.append (fun r hr => ?_) hunder⟩
        obtain ⟨name, value, hkind⟩ := kind_of_mem_attributeRows hr
        exact ⟨by simp [hkind], by simp [hkind]⟩
      rw [Copy.ofNode, rowsOf, rowsOf, List.append_nil, rows]
      constructor
      · refine Nested.cons ?_ ?_ (hrest.leads rfl)
        · refine (Nested.leaf (next + 1) next .namespace).append ?_
          refine (nested_attributeRows next (next + 2) e.pairs).append ?_
          rwa [length_attributeRows]
        · rw [List.length_cons, List.length_append, length_attributeRows, length_rowsOf]
          dsimp only
          omega
      · refine List.forall_mem_cons.mpr ⟨⟨nofun, fun q name hq => ?_⟩, hrest⟩
        cases hq
        exact List.prefix_refl path
  | text s =>
      rw [Copy.ofNode, rowsOf, rowsOf, List.append_nil, rows]
      exact ⟨.leaf next parent _, List.forall_mem_singleton.mpr ⟨nofun, nofun⟩⟩
  | contents | comment => exact ⟨.nil next, nofun⟩
termination_by structural n

theorem nested_ofNodes (parent next : Nat) (path : List Nat) (index : Nat) (ns : List Page.Node) :
    Nested next (rowsOf parent next (Copy.ofNodes path index ns)) ∧
      Under path (rowsOf parent next (Copy.ofNodes path index ns)) := by
  cases ns with
  | nil => exact ⟨.nil next, nofun⟩
  | cons n rest =>
      obtain ⟨hfirst, hunder⟩ := nested_ofNode parent next (path ++ [index]) n
      obtain ⟨hrest, hunder'⟩ := nested_ofNodes parent
        (next + sizes (Copy.ofNode (path ++ [index]) n)) path (index + 1) rest
      rw [Copy.ofNodes, rowsOf_append]
      refine ⟨hfirst.append ?_, hunder.of_append.append hunder'⟩
      rwa [length_rowsOf]
termination_by structural ns
end

-- ### The whole outline

-- What stands between a node and its end is below it.
structure Outline.Tree (o : Outline) : Prop where
  ends : ∀ n m, n < m → m < (o.row n).finish → (o.row m).finish ≤ (o.row n).finish
  leads : ∀ n m, n < m → m < (o.row n).finish → (o.row n).kind.Leads (o.row m).kind
  noRoot : ∀ n m, n < m → m < (o.row n).finish → (o.row m).kind ≠ .root

variable {o : Outline}

theorem row_eq (h : o.rows = rs.toArray) (n : Nat) : o.row n = rs[n]?.getD default := by
  simp [Outline.row, h]

theorem Nested.tree (h : Nested 0 rs) (ho : o.rows = rs.toArray)
    (hroot : ∀ m r, 0 < m → rs[m]? = some r → r.kind ≠ .root) : o.Tree := by
  -- A number before the end of a node is the number of a row.
  have found {n m : Nat} (hlt : n < m) (hm : m < (rs[n]?.getD default).finish) :
      ∃ r t, rs[n]? = some r ∧ rs[m]? = some t ∧ t.finish ≤ r.finish ∧ r.kind.Leads t.kind := by
    cases hn : rs[n]? with
    | none =>
        rw [hn] at hm
        cases hm
    | some r =>
        rw [hn, Option.getD_some] at hm
        have hend := (h.ends n r hn).2
        have hlt' : m < rs.length := by omega
        have hm' : rs[m]? = some rs[m] := List.getElem?_eq_getElem hlt'
        exact ⟨r, _, rfl, hm', h.inside n m r _ hn hm' hlt (by omega)⟩
  refine ⟨fun n m hlt hm => ?_, fun n m hlt hm => ?_, fun n m hlt hm => ?_⟩
  all_goals
    rw [row_eq ho] at hm
    obtain ⟨r, t, hn, hm, hends, hleads⟩ := found hlt hm
    simp only [row_eq ho, hn, hm, Option.getD_some]
  · exact hends
  · exact hleads
  · exact hroot m t (by omega) hm

theorem rowsOf_ofNode_root (p : Page) (parent next : Nat) :
    rowsOf parent next (Copy.ofNode [] (.element p.root p.children)) =
      rows parent next (Copy.ofPage p) := List.append_nil _

theorem nested_ofPage (p : Page) : Nested 0 (documentRows (Copy.ofPage p)) := by
  obtain ⟨hnested, -⟩ := nested_ofNode 0 1 [] (.element p.root p.children)
  rw [rowsOf_ofNode_root] at hnested
  exact hnested.cons (by rw [length_rows]) fun t _ => nofun

-- The rows of an outline are those of the copy of a page.
def Outline.Copies (o : Outline) (p : Page) : Prop :=
  o.rows = (documentRows (Copy.ofPage p)).toArray

theorem Outline.Copies.tree {p : Page} (ho : o.Copies p) : o.Tree := by
  obtain ⟨-, hunder⟩ := nested_ofNode 0 1 [] (.element p.root p.children)
  rw [rowsOf_ofNode_root] at hunder
  refine (nested_ofPage p).tree ho fun m r hm hr => ?_
  obtain ⟨k, rfl⟩ : ∃ k, m = k + 1 := ⟨m - 1, by omega⟩
  exact (hunder r (List.mem_of_getElem? hr)).1

end Spiderworks.XPath
