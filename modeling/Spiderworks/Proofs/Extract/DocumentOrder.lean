import Spiderworks.Extract.Select
import Spiderworks.Proofs.Page.Descent
import Spiderworks.Proofs.XPath.Ascending
import Spiderworks.Proofs.XPath.Labels

namespace Spiderworks

open Spiderworks.Page (Spot Copy Level)

-- The elements of the page as a reader meets them. What was taken out of the page is none of them.
def Page.document (p : Page) : List Spot := p.rootSpot :: p.rootSpot.below

-- Nothing was taken out of the page, and no element came into being before one that it stands
-- behind.
structure Page.CameInOrder (p : Page) : Prop where
  kept : Page.looseSpots p.loose = []
  ascending : p.document.Pairwise fun s t => s.element.created ≤ t.element.created

theorem Page.ascending_spots (p : Page) :
    p.spots.Pairwise fun s t => s.element.created ≤ t.element.created := by
  refine List.Pairwise.imp of_decide_eq_true (List.pairwise_mergeSort (fun s t u hst htu => ?_)
    (fun s t => ?_) _)
  · exact decide_eq_true (Nat.le_trans (of_decide_eq_true hst) (of_decide_eq_true htu))
  · simpa using Nat.le_total s.element.created t.element.created

-- Elements that came into being one after the other can be put into that order in one way only.
theorem Page.spots_eq {p : Page} {ss : List Spot}
    (hperm : (p.document ++ Page.looseSpots p.loose).Perm ss)
    (hascending : (ss.map (·.element.created)).Pairwise (· < ·)) : p.spots = ss := by
  have hsame : p.spots.Perm ss := (List.mergeSort_perm _ _).trans hperm
  have hone : ∀ s ∈ ss, ∀ t ∈ ss, s.element.created = t.element.created → s = t :=
    List.inj_on_of_nodup_map (hascending.imp Nat.ne_of_lt)
  refine hsame.eq_of_pairwise (fun s t hs ht hst hts => ?_) p.ascending_spots
    ((List.pairwise_map.mp hascending).imp Nat.le_of_lt)
  exact hone s (hsame.mem_iff.mp hs) t ht (Nat.le_antisymm hst hts)

theorem Page.cameInOrder_iff (p : Page) : p.CameInOrder ↔ p.spots.Sublist p.document := by
  have hperm : p.spots.Perm (p.document ++ Page.looseSpots p.loose) := List.mergeSort_perm _ _
  constructor
  · intro h
    have hspots : p.spots =
        p.document.mergeSort fun s t => s.element.created ≤ t.element.created := by
      rw [Page.spots, h.kept, List.append_nil, Page.document]
    rw [hspots, List.mergeSort_of_pairwise (h.ascending.imp decide_eq_true)]
  · intro h
    have hlength := hperm.length_eq
    have hle := h.length_le
    rw [List.length_append] at hlength
    refine ⟨List.length_eq_zero_iff.mp (by omega), ?_⟩
    rw [← h.eq_of_length (by omega)]
    exact p.ascending_spots

namespace XPath

-- ### Elements in the outline

-- The numbers of children that lead from the root to the first of some levels.
def wayTo (above : List Level) : List Nat := (above.map (·.left.length)).reverse.drop 1

theorem wayTo_cons {above : List Level} (level : Level) (habove : above ≠ []) :
    wayTo (level :: above) = wayTo above ++ [level.left.length] := by
  have hlength : 1 ≤ (above.map (·.left.length)).reverse.length := by
    rw [List.length_reverse, List.length_map]
    exact List.length_pos_iff.mpr habove
  rw [wayTo, List.map_cons, List.reverse_cons, List.drop_append_of_le_length hlength, wayTo]

-- Contents of a template have no paths.
theorem filterMap_contents (above : List Level) (left ns : List Page.Node) :
    (Spot.ofNodes above .contents left ns).filterMap Spot.path? = [] := by
  refine List.filterMap_eq_nil_iff.mpr fun s hs => ?_
  have hbase : s.base = .contents := by
    rcases Spot.down_of_mem_ofNodes above .contents left ns hs with hbase | ⟨_, _, -, hdown⟩
    · exact hbase
    · exact hdown.base_eq
  simp [Spot.path?, hbase]

mutual
theorem paths_ofNode (parent next : Nat) {above : List Level} (habove : above ≠ [])
    (left right : List Page.Node) (n : Page.Node) :
    (rowsOf parent next (Copy.ofNode (wayTo above ++ [left.length]) n)).filterMap (·.kind.path?) =
      (Spot.ofNode above .page left right n).filterMap Spot.path? := by
  cases n with
  | element e children =>
      let level : Level := ⟨e, children, left, right⟩
      have hway : wayTo above ++ [left.length] = wayTo (level :: above) :=
        (wayTo_cons level habove).symm
      have hbelow := paths_ofNodes next (next + 2 + e.pairs.length)
        (List.cons_ne_nil level above) [] children
      rw [Copy.ofNode, rowsOf, rowsOf, List.append_nil, filterMap_element, hway]
      exact congrArg (wayTo (level :: above) :: ·) hbelow
  | contents children => exact (filterMap_contents [] [] children).symm
  | text | comment => rfl
termination_by structural n

theorem paths_ofNodes (parent next : Nat) {above : List Level} (habove : above ≠ [])
    (left ns : List Page.Node) :
    (rowsOf parent next (Copy.ofNodes (wayTo above) left.length ns)).filterMap (·.kind.path?) =
      (Spot.ofNodes above .page left ns).filterMap Spot.path? := by
  cases ns with
  | nil => rfl
  | cons n rest =>
      rw [Copy.ofNodes, rowsOf_append, List.filterMap_append, Spot.ofNodes, List.filterMap_append,
        paths_ofNode parent next habove left rest n]
      exact congrArg _ (paths_ofNodes parent _ habove (n :: left) rest)
termination_by structural ns
end

theorem paths_ofPage (p : Page) : (rows 0 1 (Copy.ofPage p)).filterMap (·.kind.path?) =
    p.document.filterMap Spot.path? := by
  have hbelow := paths_ofNodes 1 (1 + 2 + p.root.pairs.length)
    (List.cons_ne_nil p.rootSpot.here []) [] p.children
  rw [Copy.ofPage, filterMap_element]
  exact congrArg ([] :: ·) hbelow

end XPath

namespace Extract

variable {page : Page} {s t : Spot} {path : List Nat} {ns : List Nat}

-- ### From the outline back to the page

theorem mem_spots_of_mem_document (hs : s ∈ page.document) : s ∈ page.spots :=
  List.mem_mergeSort.mpr (List.mem_append_left _ hs)

theorem find?_path (hs : s ∈ page.document) (hpath : s.path? = some path) :
    page.document.find? (fun t => t.path? == some path) = some s := by
  have hsome : (page.document.find? fun t => t.path? == some path).isSome :=
    List.find?_isSome.mpr ⟨s, hs, beq_iff_eq.mpr hpath⟩
  obtain ⟨t, ht⟩ := Option.isSome_iff_exists.mp hsome
  have hmem := mem_spots_of_mem_document (List.mem_of_find?_eq_some ht)
  have htpath : t.path? = some path := by simpa using List.find?_some ht
  have hdown := Page.down_of_path? hmem htpath
  rw [ht, hdown.unique (Page.down_of_path? (mem_spots_of_mem_document hs) hpath)]

-- What a node of some kind was made from.
def spotOfKind? (page : Page) : XPath.Kind → Option Spot
  | .root => some page.rootSpot
  | .element path _ => page.document.find? fun s => s.path? == some path
  | _ => none

theorem filterMap_range {α : Type} {o : XPath.Outline} {rs : List XPath.Row}
    (ho : o.rows = rs.toArray) (g : XPath.Row → Option α) :
    (List.range o.rows.size).filterMap (fun n => g (o.row n)) = rs.filterMap g := by
  have hrows : (List.range o.rows.size).map o.row = rs := by
    refine List.ext_getElem (by simp [ho]) fun n hn hn' => ?_
    simp [XPath.row_eq ho, hn']
  calc (List.range o.rows.size).filterMap (fun n => g (o.row n))
    _ = ((List.range o.rows.size).map o.row).filterMap g := by
      rw [List.filterMap_map]
      rfl
    _ = rs.filterMap g := by rw [hrows]

-- The nodes of the outline were made from the root, for the document itself, and then from the
-- elements of the document in order, those in templates left out.
theorem filterMap_spotOf? (page : Page) :
    (List.range (outlineOf page).rows.size).filterMap (spotOf? page (outlineOf page)) =
      page.rootSpot :: page.document.filter (·.path?.isSome) := by
  have hkinds : ∀ r ∈ XPath.rows 0 1 (Copy.ofPage page), spotOfKind? page r.kind =
      r.kind.path?.bind fun path => page.document.find? fun s => s.path? == some path := by
    intro r hr
    obtain ⟨-, hunder⟩ := XPath.nested_ofNode 0 1 [] (.element page.root page.children)
    rw [XPath.rowsOf_ofNode_root] at hunder
    have hroot := (hunder r hr).1
    cases hkind : r.kind with
    | root => exact absurd hkind hroot
    | element | «namespace» | «attribute» | text => rfl
  have hspots : ∀ s ∈ page.document, (s.path?.bind fun path =>
      page.document.find? fun t => t.path? == some path) =
        if s.path?.isSome then some s else none := by
    intro s hs
    cases hpath : s.path? with
    | none => rfl
    | some path => exact find?_path hs hpath
  calc (List.range (outlineOf page).rows.size).filterMap (spotOf? page (outlineOf page))
    _ = (XPath.documentRows (Copy.ofPage page)).filterMap fun r => spotOfKind? page r.kind := by
      rw [← filterMap_range (XPath.copies_ofMirror page)]
      rfl
    _ = page.rootSpot :: (XPath.rows 0 1 (Copy.ofPage page)).filterMap fun r =>
        r.kind.path?.bind fun path => page.document.find? fun s => s.path? == some path := by
      rw [← List.filterMap_congr hkinds]
      rfl
    _ = page.rootSpot :: page.document.filterMap fun s => s.path?.bind fun path =>
        page.document.find? fun t => t.path? == some path := by
      rw [← List.filterMap_filterMap, XPath.paths_ofPage, List.filterMap_filterMap]
    _ = page.rootSpot :: page.document.filter (·.path?.isSome) := by
      rw [List.filterMap_congr hspots, ← List.filterMap_eq_filter]
      rfl

theorem sublist_document (hascending : ns.Pairwise (· < ·))
    (hnodes : ∀ n ∈ ns, n < (outlineOf page).rows.size) :
    (ns.filterMap (spotOf? page (outlineOf page))).Sublist (page.rootSpot :: page.document) := by
  have hrange : ns.Sublist (List.range (outlineOf page).rows.size) := by
    refine List.sublist_of_subperm_of_pairwise (r := (· < ·)) ?_ hascending List.pairwise_lt_range
    refine List.subperm_of_subset (hascending.imp Nat.ne_of_lt) fun n hn => ?_
    exact List.mem_range.mpr (hnodes n hn)
  have hall := hrange.filterMap (spotOf? page (outlineOf page))
  rw [filterMap_spotOf?] at hall
  exact hall.trans (List.filter_sublist.cons_cons _)

end Extract

end Spiderworks
