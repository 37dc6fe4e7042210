import Mathlib.Data.Prod.Basic
import Spiderworks.Proofs.XPath.Nesting

namespace Spiderworks.XPath

open Spiderworks.Page (Copy Mirror)

variable {parent next n m : Nat} {path q : List Nat} {r : Row} {as bs : List Row}

-- ### Paths

theorem eq_element_of_path? {k : Kind} (h : k.path? = some q) : ∃ name, k = .element q name := by
  cases k with
  | element p name =>
      cases h
      exact ⟨name, rfl⟩
  | root | «namespace» | «attribute» | text => cases h

theorem filterMap_attributeRows (parent next : Nat) (attributes : List (String × String)) :
    (attributeRows parent next attributes).filterMap (·.kind.path?) = [] := by
  refine List.filterMap_eq_nil_iff.mpr fun r hr => ?_
  obtain ⟨name, value, hkind⟩ := kind_of_mem_attributeRows hr
  rw [hkind]
  rfl

theorem filterMap_element (parent next : Nat) (path : List Nat) (name : String)
    (attributes : List (String × String)) (children : List Copy) :
    (rows parent next (.element path name attributes children)).filterMap (·.kind.path?) =
      path ::
        (rowsOf next (next + 2 + attributes.length) children).filterMap (·.kind.path?) := by
  have hattributes := filterMap_attributeRows next (next + 2) attributes
  have hrows : (rows parent next (.element path name attributes children)).filterMap
      (·.kind.path?) = path :: (attributeRows next (next + 2) attributes ++
        rowsOf next (next + 2 + attributes.length) children).filterMap (·.kind.path?) := rfl
  rw [hrows, List.filterMap_append, hattributes, List.nil_append]

theorem prefix_of_mem_ofNode {n : Page.Node}
    (hr : r ∈ rowsOf parent next (Copy.ofNode path n)) (hq : r.kind.path? = some q) :
    path <+: q := by
  obtain ⟨-, hunder⟩ := nested_ofNode parent next path n
  obtain ⟨name, hkind⟩ := eq_element_of_path? hq
  exact (hunder r hr).2 q name hkind

-- Siblings have different numbers, and these are part of the paths.
theorem exists_index_of_mem_ofNodes {ns : List Page.Node} {index : Nat}
    (hr : r ∈ rowsOf parent next (Copy.ofNodes path index ns)) (hq : r.kind.path? = some q) :
    ∃ i, index ≤ i ∧ path ++ [i] <+: q := by
  induction ns generalizing index next with
  | nil => cases hr
  | cons n rest ih =>
      rw [Copy.ofNodes, rowsOf_append] at hr
      rcases List.mem_append.mp hr with hr | hr
      · exact ⟨index, Nat.le_refl _, prefix_of_mem_ofNode hr hq⟩
      · obtain ⟨i, hi, hprefix⟩ := ih hr
        exact ⟨i, by omega, hprefix⟩

-- No two rows are those of elements with the same path.
def Distinct (rs : List Row) : Prop := (rs.filterMap (·.kind.path?)).Nodup

theorem Distinct.append (ha : Distinct as) (hb : Distinct bs)
    (h : ∀ r ∈ as, ∀ t ∈ bs, ∀ q, r.kind.path? = some q → t.kind.path? ≠ some q) :
    Distinct (as ++ bs) := by
  rw [Distinct, List.filterMap_append]
  refine List.nodup_append.mpr ⟨ha, hb, fun q hq q' hq' => ?_⟩
  obtain ⟨r, hr, hrq⟩ := List.mem_filterMap.mp hq
  obtain ⟨t, ht, htq⟩ := List.mem_filterMap.mp hq'
  rintro rfl
  exact h r hr t ht q hrq htq

mutual
theorem distinct_ofNode (parent next : Nat) (path : List Nat) (n : Page.Node) :
    Distinct (rowsOf parent next (Copy.ofNode path n)) := by
  cases n with
  | element e children =>
      have hbelow := distinct_ofNodes next (next + 2 + e.pairs.length) path 0 children
      rw [Copy.ofNode, rowsOf, rowsOf, List.append_nil, Distinct, filterMap_element]
      refine List.nodup_cons.mpr ⟨fun hmem => ?_, hbelow⟩
      obtain ⟨r, hr, hq⟩ := List.mem_filterMap.mp hmem
      obtain ⟨i, -, hprefix⟩ := exists_index_of_mem_ofNodes hr hq
      have hlength := hprefix.length_le
      rw [List.length_append, List.length_singleton] at hlength
      omega
  | contents | text | comment => exact List.nodup_nil
termination_by structural n

theorem distinct_ofNodes (parent next : Nat) (path : List Nat) (index : Nat)
    (ns : List Page.Node) : Distinct (rowsOf parent next (Copy.ofNodes path index ns)) := by
  cases ns with
  | nil => exact List.nodup_nil
  | cons n rest =>
      rw [Copy.ofNodes, rowsOf_append]
      refine (distinct_ofNode parent next (path ++ [index]) n).append
        (distinct_ofNodes parent _ path (index + 1) rest) fun r hr t ht q hq hq' => ?_
      obtain ⟨i, hi, hprefix⟩ := exists_index_of_mem_ofNodes ht hq'
      have hsame := List.prefix_of_prefix_length_le (prefix_of_mem_ofNode hr hq) hprefix (by simp)
      have hindex : index = i := by simpa using hsame.eq_of_length (by simp)
      omega
termination_by structural ns
end

theorem distinct_ofPage (p : Page) : Distinct (documentRows (Copy.ofPage p)) := by
  rw [Distinct, documentRows, List.filterMap_cons_none rfl, ← rowsOf_ofNode_root]
  exact distinct_ofNode 0 1 [] _

-- A path leads to one node.
theorem Distinct.eq_of_path? {rs : List Row} {o : Outline} (h : Distinct rs)
    (ho : o.rows = rs.toArray) (hn : (o.row n).kind.path? = some q)
    (hm : (o.row m).kind.path? = some q) : n = m := by
  have hpairwise := List.pairwise_iff_getElem.mp (List.pairwise_filterMap.mp h)
  have hlength {k : Nat} (hk : (o.row k).kind.path? = some q) :
      ∃ hlt : k < rs.length, rs[k].kind.path? = some q := by
    rw [row_eq ho] at hk
    by_cases hlt : k < rs.length
    · rw [List.getElem?_eq_getElem hlt, Option.getD_some] at hk
      exact ⟨hlt, hk⟩
    · rw [List.getElem?_eq_none (Nat.not_lt.mp hlt)] at hk
      cases hk
  obtain ⟨hnlt, hn⟩ := hlength hn
  obtain ⟨hmlt, hm⟩ := hlength hm
  rcases Nat.lt_trichotomy n m with hlt | heq | hlt
  · exact absurd rfl (hpairwise n m hnlt hmlt hlt q hn q hm)
  · exact heq
  · exact absurd rfl (hpairwise m n hmlt hnlt hlt q hm q hn)

-- ### Paths and places

open Spiderworks.Page (pairsOf pairsOfAll keptOf kept)

variable {place : List Nat} {f : List Nat → List Nat}

-- The pairs of a page have its paths in document order, and the places of the copies in the order
-- of the copy.
mutual
theorem map_fst_pairsOf (parent next : Nat) (path place : List Nat) (n : Page.Node) :
    (pairsOf path place n).map (·.1) =
      (rowsOf parent next (Copy.ofNode path n)).filterMap (·.kind.path?) := by
  cases n with
  | element e children =>
      rw [Copy.ofNode, rowsOf, rowsOf, List.append_nil, filterMap_element, pairsOf, List.map_cons,
        map_fst_pairsOfAll next (next + 2 + e.pairs.length)]
  | contents | text | comment => rfl
termination_by structural n

theorem map_fst_pairsOfAll (parent next : Nat) (path : List Nat) (index : Nat) (place : List Nat)
    (k : Nat) (ns : List Page.Node) : (pairsOfAll path index place k ns).map (·.1) =
      (rowsOf parent next (Copy.ofNodes path index ns)).filterMap (·.kind.path?) := by
  cases ns with
  | nil => rfl
  | cons n rest =>
      rw [pairsOfAll, List.map_append, Copy.ofNodes, rowsOf_append, List.filterMap_append,
        map_fst_pairsOf parent next, map_fst_pairsOfAll]
termination_by structural ns
end

mutual
theorem map_snd_pairsOf (parent next : Nat) (path place : List Nat) (k : Nat) (n : Page.Node) :
    (pairsOf path (place ++ [k]) n).map (·.2) =
      (rowsOf parent next (Copy.ofNodes place k n.kept)).filterMap (·.kind.path?) := by
  cases n with
  | element e children =>
      rw [Page.Node.kept, Copy.ofNodes, Copy.ofNodes, Copy.ofNode, List.append_nil, rowsOf, rowsOf,
        List.append_nil, filterMap_element, pairsOf, List.map_cons,
        map_snd_pairsOfAll next (next + 2 + e.pairs.length)]
  | contents | text | comment => rfl
termination_by structural n

theorem map_snd_pairsOfAll (parent next : Nat) (path : List Nat) (index : Nat) (place : List Nat)
    (k : Nat) (ns : List Page.Node) : (pairsOfAll path index place k ns).map (·.2) =
      (rowsOf parent next (Copy.ofNodes place k (keptOf ns))).filterMap (·.kind.path?) := by
  cases ns with
  | nil => rfl
  | cons n rest =>
      rw [pairsOfAll, List.map_append, keptOf, Copy.ofNodes_append, rowsOf_append,
        List.filterMap_append, map_snd_pairsOf parent next, map_snd_pairsOfAll]
termination_by structural ns
end

theorem relabel_attributeRows (parent next : Nat) (attributes : List (String × String)) :
    (attributeRows parent next attributes).map (Row.relabel f) =
      attributeRows parent next attributes := by
  induction attributes generalizing next with
  | nil => rfl
  | cons a rest ih =>
      rw [attributeRows, List.map_cons, ih]
      rfl

theorem sizes_eq_of_relabel {cs ds : List Copy}
    (h : (rowsOf parent next cs).map (Row.relabel f) = rowsOf parent next ds) :
    sizes cs = sizes ds := by
  simpa [length_rowsOf] using congrArg List.length h

theorem relabel_rows_element {name : String} {attributes : List (String × String)}
    {cs ds : List Copy} (hf : f place = path)
    (h : (rowsOf next (next + 2 + attributes.length) cs).map (Row.relabel f) =
      rowsOf next (next + 2 + attributes.length) ds) :
    (rows parent next (.element place name attributes cs)).map (Row.relabel f) =
      rows parent next (.element path name attributes ds) := by
  rw [rows, rows, List.map_cons, List.map_cons, List.map_append, relabel_attributeRows, h,
    sizes_eq_of_relabel h, ← hf]
  rfl

-- The copy by places and the copy by paths differ in their labels alone.
mutual
theorem relabel_rowsOf_kept (parent next : Nat) (path place : List Nat) (k : Nat) (n : Page.Node)
    (hf : ∀ pair ∈ pairsOf path (place ++ [k]) n, f pair.2 = pair.1) :
    (rowsOf parent next (Copy.ofNodes place k n.kept)).map (Row.relabel f) =
      rowsOf parent next (Copy.ofNode path n) := by
  cases n with
  | element e children =>
      obtain ⟨hfirst, hrest⟩ := List.forall_mem_cons.mp hf
      rw [Page.Node.kept, Copy.ofNodes, Copy.ofNodes, Copy.ofNode, Copy.ofNode, List.append_nil,
        rowsOf, rowsOf, rowsOf, rowsOf, List.append_nil, List.append_nil]
      exact relabel_rows_element hfirst
        (relabel_rowsOf_keptOf next _ path 0 (place ++ [k]) 0 children hrest)
  | contents | text | comment => rfl
termination_by structural n

theorem relabel_rowsOf_keptOf (parent next : Nat) (path : List Nat) (index : Nat)
    (place : List Nat) (k : Nat) (ns : List Page.Node)
    (hf : ∀ pair ∈ pairsOfAll path index place k ns, f pair.2 = pair.1) :
    (rowsOf parent next (Copy.ofNodes place k (keptOf ns))).map (Row.relabel f) =
      rowsOf parent next (Copy.ofNodes path index ns) := by
  cases ns with
  | nil => rfl
  | cons n rest =>
      obtain ⟨hfirst, hrest⟩ := List.forall_mem_append.mp hf
      have hn := relabel_rowsOf_kept parent next (path ++ [index]) place k n hfirst
      rw [keptOf, Copy.ofNodes_append, rowsOf_append, List.map_append, hn, Copy.ofNodes,
        rowsOf_append, sizes_eq_of_relabel hn]
      exact congrArg _ (relabel_rowsOf_keptOf parent _ path (index + 1) place _ rest hrest)
termination_by structural ns
end

-- ### The outline of a page

variable {p : Page}

-- Every element of a page that is copied, with the place of its copy.
def pairsIn (p : Page) : List (List Nat × List Nat) := pairsOf [] [] (.element p.root p.children)

theorem nodup_paths (p : Page) : ((pairsIn p).map (·.1)).Nodup := by
  rw [pairsIn, map_fst_pairsOf 0 1]
  exact distinct_ofNode 0 1 [] _

theorem map_snd_pairsIn (p : Page) : (pairsIn p).map (·.2) =
    (documentRows (Copy.ofPage (kept p))).filterMap (·.kind.path?) := by
  rw [documentRows, List.filterMap_cons_none rfl, Copy.ofPage, filterMap_element, pairsIn, pairsOf,
    List.map_cons, map_snd_pairsOfAll 1 (1 + 2 + p.root.pairs.length)]
  rfl

theorem nodup_places (p : Page) : ((pairsIn p).map (·.2)).Nodup :=
  map_snd_pairsIn p ▸ distinct_ofPage (kept p)

theorem placeOf?_eq_some_iff :
    (Mirror.ofPage p).placeOf? path = some place ↔ (path, place) ∈ pairsIn p := by
  have hperm := Page.Mirror.forward_perm p
  rw [Mirror.placeOf?, Page.lookup_eq_some_iff ((hperm.map _).nodup_iff.mpr (nodup_paths p)),
    hperm.mem_iff]
  rfl

theorem originalOf?_eq_some_iff :
    (Mirror.ofPage p).originalOf? place = some path ↔ (path, place) ∈ pairsIn p := by
  have hperm := Page.Mirror.forward_perm p
  have hreverse : (Mirror.ofPage p).reverse = (Mirror.ofPage p).forward.map Prod.swap := rfl
  have hnodup : (((Mirror.ofPage p).forward.map Prod.swap).map (·.1)).Nodup := by
    rw [List.map_map]
    exact (hperm.map _).nodup_iff.mpr (nodup_places p)
  have hswap : (place, path) = Prod.swap (path, place) := rfl
  rw [Mirror.originalOf?, hreverse, Page.lookup_eq_some_iff hnodup, hswap,
    List.mem_map_of_injective Prod.swap_injective, hperm.mem_iff]
  rfl

-- An element and its copy are found from each other.
theorem placeOf?_eq_some_iff_originalOf? : (Mirror.ofPage p).placeOf? path = some place ↔
    (Mirror.ofPage p).originalOf? place = some path := by
  rw [placeOf?_eq_some_iff, originalOf?_eq_some_iff]

theorem relabel_documentRows (hf : ∀ pair ∈ pairsIn p, f pair.2 = pair.1) :
    (documentRows (Copy.ofPage (kept p))).map (Row.relabel f) = documentRows (Copy.ofPage p) := by
  obtain ⟨hfirst, hrest⟩ := List.forall_mem_cons.mp hf
  have hbelow := relabel_rowsOf_keptOf 1 (1 + 2 + p.root.pairs.length) [] 0 [] 0 p.children hrest
  rw [documentRows, documentRows, List.map_cons, Copy.ofPage, Copy.ofPage, size, size]
  refine congrArg₂ List.cons ?_ (relabel_rows_element hfirst hbelow)
  rw [← sizes_eq_of_relabel hbelow]
  rfl

theorem copies_ofMirror (p : Page) : (Outline.ofMirror (Mirror.ofPage p)).Copies p := by
  rw [Outline.Copies, Outline.ofMirror, Mirror.copy_ofPage]
  refine congrArg List.toArray (relabel_documentRows fun pair hpair => ?_)
  rw [originalOf?_eq_some_iff.mpr hpair, Option.getD_some]

theorem path?_relabel (f : List Nat → List Nat) (r : Row) :
    (r.relabel f).kind.path? = r.kind.path?.map f := by
  obtain ⟨k, parent, finish⟩ := r
  cases k <;> rfl

-- The node of an element has its path: by the place of its copy it is found among the rows.
theorem exists_find?_ofMirror (h : (path, place) ∈ pairsIn p) :
    ∃ n, (Outline.ofMirror (Mirror.ofPage p)).find? path = some n ∧
      ((Outline.ofMirror (Mirror.ofPage p)).row n).kind.path? = some path := by
  have hplace : place ∈ (documentRows (Copy.ofPage (kept p))).filterMap (·.kind.path?) :=
    map_snd_pairsIn p ▸ List.mem_map_of_mem (f := (·.2)) h
  obtain ⟨r, hr, hpath⟩ := List.mem_filterMap.mp hplace
  obtain ⟨n, hn⟩ : ∃ n, (documentRows (Copy.ofPage (kept p))).findIdx?
      (·.kind.path? == some place) = some n := by
    rw [← Option.isSome_iff_exists, List.findIdx?_isSome, List.any_eq_true]
    exact ⟨r, hr, beq_iff_eq.mpr hpath⟩
  obtain ⟨hlt, hfound, -⟩ := List.findIdx?_eq_some_iff_getElem.mp hn
  refine ⟨n, Option.bind_eq_some_iff.mpr ⟨place, placeOf?_eq_some_iff.mpr h, ?_⟩, ?_⟩
  · rwa [Page.Mirror.copy_ofPage]
  · have hrows : (Outline.ofMirror (Mirror.ofPage p)).rows =
        ((documentRows (Mirror.ofPage p).copy).map
          (Row.relabel fun place => ((Mirror.ofPage p).originalOf? place).getD [])).toArray := rfl
    rw [row_eq hrows, Page.Mirror.copy_ofPage, List.getElem?_map, List.getElem?_eq_getElem hlt,
      Option.map_some, Option.getD_some, path?_relabel, beq_iff_eq.mp hfound, Option.map_some,
      originalOf?_eq_some_iff.mpr h, Option.getD_some]

theorem mem_paths_of_row {o : Outline} {n : Nat} (ho : o.Copies p)
    (h : (o.row n).kind.path? = some path) :
    path ∈ (rows 0 1 (Copy.ofPage p)).filterMap (·.kind.path?) := by
  rw [row_eq ho] at h
  cases hr : (documentRows (Copy.ofPage p))[n]? with
  | none =>
      rw [hr] at h
      cases h
  | some r =>
      rw [hr, Option.getD_some] at h
      have hmem : path ∈ (documentRows (Copy.ofPage p)).filterMap (·.kind.path?) :=
        List.mem_filterMap.mpr ⟨r, List.mem_of_getElem? hr, h⟩
      rwa [documentRows, List.filterMap_cons_none rfl] at hmem

-- An element of the page is found at the node with its path, and there is no other one.
theorem find?_ofMirror {n : Nat} :
    (Outline.ofMirror (Mirror.ofPage p)).find? path = some n ↔
      ((Outline.ofMirror (Mirror.ofPage p)).row n).kind.path? = some path := by
  constructor
  · intro h
    obtain ⟨place, hplace, -⟩ := Option.bind_eq_some_iff.mp h
    obtain ⟨m, hm, hpath⟩ := exists_find?_ofMirror (placeOf?_eq_some_iff.mp hplace)
    cases Option.some.inj (h.symm.trans hm)
    exact hpath
  · intro h
    have hmem := mem_paths_of_row (copies_ofMirror p) h
    rw [← rowsOf_ofNode_root, ← map_fst_pairsOf 0 1 [] []] at hmem
    obtain ⟨⟨path, place⟩, hpair, rfl⟩ := List.mem_map.mp hmem
    obtain ⟨m, hm, hpath⟩ := exists_find?_ofMirror hpair
    rwa [(distinct_ofPage p).eq_of_path? (copies_ofMirror p) h hpath]

end Spiderworks.XPath
