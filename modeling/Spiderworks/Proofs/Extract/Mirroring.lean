import Spiderworks.Proofs.Extract.Records
import Spiderworks.Proofs.XPath.Placement

namespace Spiderworks

open Spiderworks.Page (Spot Copy Level Base)

namespace Extract

open Spiderworks.XPath (Outline)

variable {page : Page} {s t : Spot} {n m : Nat} {path way : List Nat}

-- ### From an element to its node

-- The copy of an element that has a path.
def copyOf (path : List Nat) (s : Spot) : Copy :=
  .element path s.element.name s.element.pairs (Copy.ofNodes path 0 s.here.children)

theorem exists_holds_of_down {o : Outline} {parent : Nat} (h : Spot.Down s way t)
    (hs : o.Holds n (XPath.rows parent n (copyOf path s))) :
    ∃ m above, o.Holds m (XPath.rows above m (copyOf (path ++ way) t)) := by
  induction h generalizing path n parent with
  | here s => exact ⟨n, parent, by rwa [List.append_nil]⟩
  | @child s t way level hlevel _ ih =>
      obtain ⟨-, -, -, hchildren⟩ := XPath.holds_element hs
      rw [hlevel, Copy.ofNodes_append, Copy.ofNodes, XPath.rowsOf_append, XPath.rowsOf_append,
        Outline.Holds.append, Outline.Holds.append, Copy.ofNode, XPath.rowsOf, XPath.rowsOf,
        List.append_nil] at hchildren
      rw [Nat.zero_add, List.length_reverse, XPath.length_rowsOf] at hchildren
      obtain ⟨m, above, hm⟩ := ih hchildren.2.1
      refine ⟨m, above, ?_⟩
      rwa [List.append_assoc, List.singleton_append] at hm

theorem holds_ofPage (page : Page) :
    (outlineOf page).row 0 = ⟨.root, 0, 1 + XPath.size (Copy.ofPage page)⟩ ∧
      (outlineOf page).Holds 1 (XPath.rows 0 1 (copyOf [] page.rootSpot)) :=
  Outline.Holds.cons.mp (XPath.holds_all (XPath.copies_ofMirror page))

theorem path?_eq_none_iff : s.path? = none ↔ s.base ≠ .page := by
  unfold Spot.path?
  cases s.base <;> simp

theorem nodeOf?_of_row (hpath : s.path? = some path)
    (hrow : ((outlineOf page).row n).kind.path? = some path) :
    nodeOf? (outlineOf page) s = some n := by
  rw [nodeOf?, hpath, Option.bind_some]
  exact XPath.find?_ofMirror.mpr hrow

-- The node of an element is the first row of its copy.
theorem holds_of_nodeOf? (hs : s ∈ page.spots) (h : nodeOf? (outlineOf page) s = some n) :
    ∃ path parent, s.path? = some path ∧
      (outlineOf page).Holds n (XPath.rows parent n (copyOf path s)) := by
  obtain ⟨path, hpath, -⟩ := Option.bind_eq_some_iff.mp h
  obtain ⟨m, parent, hm⟩ := exists_holds_of_down (Page.down_of_path? hs hpath)
    (holds_ofPage page).2
  rw [List.nil_append] at hm
  have hrow : ((outlineOf page).row m).kind.path? = some path := by
    rw [(XPath.holds_element hm).1]
    rfl
  rw [nodeOf?_of_row hpath hrow] at h
  cases h
  exact ⟨path, parent, hpath, hm⟩

-- ### Below an element

-- What path expressions see of an element: the elements and the texts in it.
inductive Piece where
  | element (s : Spot)
  | text (content : String)

def piecesFrom (above : List Level) (base : Base) (left : List Page.Node) :
    List Page.Node → List Piece
  | [] => []
  | n :: right =>
    match n with
    | .element e children =>
      .element ⟨⟨e, children, left, right⟩, above, base⟩ :: piecesFrom above base (n :: left) right
    | .text content => .text content :: piecesFrom above base (n :: left) right
    | .contents _ | .comment _ => piecesFrom above base (n :: left) right

def piecesOf (s : Spot) : List Piece := piecesFrom (s.here :: s.above) s.base [] s.here.children

-- What a node was made from.
def pieceOf? (page : Page) (n : Nat) : Option Piece :=
  match ((outlineOf page).row n).kind with
  | .text content => some (.text content)
  | _ => (spotOf? page (outlineOf page) n).map .element

theorem spotOf?_of_row (hs : s ∈ page.document) (hpath : s.path? = some path)
    (hrow : ((outlineOf page).row n).kind.path? = some path) :
    spotOf? page (outlineOf page) n = some s := by
  obtain ⟨name, hkind⟩ := XPath.eq_element_of_path? hrow
  rw [spotOf?, hkind]
  exact find?_path hs hpath

theorem mem_document_of_path? (hs : s ∈ page.spots) (hpath : s.path? = some path) :
    s ∈ page.document := (Page.down_of_path? hs hpath).mem

theorem child_of_split {level : Level} (hs : s ∈ page.document) (hpath : s.path? = some path)
    (hsplit : s.here.children =
      level.left.reverse ++ .element level.element level.children :: level.right) :
    (⟨level, s.here :: s.above, s.base⟩ : Spot) ∈ page.document ∧
      Spot.path? ⟨level, s.here :: s.above, s.base⟩ = some (path ++ [level.left.length]) := by
  have hchild := Spot.Down.child hsplit (.here _)
  have hdown := (Page.down_of_path? (mem_spots_of_mem_document hs) hpath).trans hchild
  refine ⟨hdown.mem, ?_⟩
  rw [hchild.path?_eq, hpath]
  rfl

theorem map_pieceOf? {left ns : List Page.Node} {parent next : Nat} (hs : s ∈ page.document)
    (hpath : s.path? = some path) (hsplit : s.here.children = left.reverse ++ ns)
    (h : (outlineOf page).Holds next
      (XPath.rowsOf parent next (Copy.ofNodes path left.length ns))) :
    (XPath.starts next (Copy.ofNodes path left.length ns)).map (pieceOf? page) =
      (piecesFrom (s.here :: s.above) s.base left ns).map some := by
  induction ns generalizing left next with
  | nil => rfl
  | cons n right ih =>
      have hrest : s.here.children = (n :: left).reverse ++ right := by
        rw [hsplit, List.reverse_cons, List.append_assoc, List.singleton_append]
      rw [Copy.ofNodes, XPath.rowsOf_append, Outline.Holds.append, XPath.length_rowsOf] at h
      have hright := ih hrest h.2
      cases n with
      | element e children =>
          let level : Level := ⟨e, children, left, right⟩
          obtain ⟨hmem, hway⟩ :
              (⟨level, s.here :: s.above, s.base⟩ : Spot) ∈ page.document ∧ _ :=
            child_of_split hs hpath hsplit
          obtain ⟨hfirst, -⟩ := Outline.Holds.append.mp h.1
          have hrow := (XPath.holds_element hfirst).1
          have hspot := spotOf?_of_row (n := next) hmem hway (by rw [hrow]; rfl)
          have hpiece : pieceOf? page next =
              some (.element ⟨level, s.here :: s.above, s.base⟩) := by
            simp only [pieceOf?, hrow, hspot, Option.map_some]
          exact congrArg₂ List.cons hpiece hright
      | text content =>
          have hrow : (outlineOf page).row next = ⟨.text content, parent, next + 1⟩ :=
            h.1 0 _ rfl
          have hpiece : pieceOf? page next = some (.text content) := by
            rw [pieceOf?, hrow]
          exact congrArg₂ List.cons hpiece hright
      | contents | comment => exact hright

-- The node stands for the element in the outline: what can be seen from it is what can be seen from
-- the element, comments and the contents of templates left out.
structure Mirrors (page : Page) (s : Spot) (n : Nat) : Prop where
  name : (outlineOf page).name n = s.element.name
  attributes : (s.element.attributes.map (·.name)).Nodup →
    ((outlineOf page).attributes n).map
        (fun m => ((outlineOf page).name m, (outlineOf page).string m)) =
      s.element.attributes.map fun a => (a.name, a.value)
  children : ((outlineOf page).children n).map (pieceOf? page) = (piecesOf s).map some

theorem pairs_of_nodup {e : Page.Element} (h : (e.attributes.map (·.name)).Nodup) :
    e.pairs = e.attributes.map fun a => (a.name, a.value) := by
  rw [Page.Element.pairs]
  generalize e.attributes = attributes at h
  induction attributes using List.reverseRecOn with
  | nil => rfl
  | append_singleton before a ih =>
      rw [List.map_append, List.nodup_append] at h
      obtain ⟨hbefore, -, hnew⟩ := h
      have hfresh : ∀ pair ∈ before.map fun a => (a.name, a.value), (pair.1 != a.name) = true := by
        simpa using fun (b : Page.Attribute) hb =>
          hnew b.name (List.mem_map_of_mem hb) a.name List.mem_cons_self
      rw [List.foldl_append, ih hbefore, List.map_append, List.foldl_cons, List.foldl_nil,
        List.filter_eq_self.mpr hfresh]
      rfl

theorem mirrors_of_nodeOf? (hs : s ∈ page.spots) (h : nodeOf? (outlineOf page) s = some n) :
    Mirrors page s n := by
  obtain ⟨path, parent, hpath, hholds⟩ := holds_of_nodeOf? hs h
  obtain ⟨hrow, -, hattributes, hchildren⟩ := XPath.holds_element hholds
  constructor
  case name => rw [Outline.name, hrow]
  case «attributes» =>
    intro hnodup
    rw [XPath.attributes_of_holds hholds, XPath.map_attributes hattributes, pairs_of_nodup hnodup]
  case children =>
    have hsplit : s.here.children = [].reverse ++ s.here.children := rfl
    rw [XPath.children_of_holds hholds]
    exact map_pieceOf? (mem_document_of_path? hs hpath) hpath hsplit hchildren

-- ### Back from a node to its element

def IsElement (page : Page) (n : Nat) : Prop := ((outlineOf page).row n).kind.path?.isSome

theorem nodeOf?_eq_some_iff (hs : s ∈ page.spots) : nodeOf? (outlineOf page) s = some n ↔
    IsElement page n ∧ spotOf? page (outlineOf page) n = some s := by
  constructor
  · intro h
    obtain ⟨path, name, hpath, hkind⟩ := nodeOf?_eq_some h
    have hrow : ((outlineOf page).row n).kind.path? = some path := by
      rw [hkind]
      rfl
    refine ⟨by rw [IsElement, hrow]; rfl, ?_⟩
    exact spotOf?_of_row (mem_document_of_path? hs hpath) hpath hrow
  · rintro ⟨helement, hspot⟩
    obtain ⟨path, hrow⟩ := Option.isSome_iff_exists.mp helement
    obtain ⟨name, hkind⟩ := XPath.eq_element_of_path? hrow
    rw [spotOf?, hkind] at hspot
    exact nodeOf?_of_row (by simpa using List.find?_some hspot) hrow

theorem exists_of_isElement (h : IsElement page n) : ∃ s ∈ page.document,
    s.base = .page ∧ matchOf page (outlineOf page) n = .element s ∧
      nodeOf? (outlineOf page) s = some n := by
  obtain ⟨path, hrow⟩ := Option.isSome_iff_exists.mp h
  have hmem := XPath.mem_paths_of_row (XPath.copies_ofMirror page) hrow
  rw [XPath.paths_ofPage] at hmem
  obtain ⟨s, hs, hpath⟩ := List.mem_filterMap.mp hmem
  refine ⟨s, hs, ?_, ?_, nodeOf?_of_row hpath hrow⟩
  · by_contra hbase
    cases hpath.symm.trans (path?_eq_none_iff.mpr hbase)
  · rw [matchOf, spotOf?_of_row hs hpath hrow]

theorem isSome_nodeOf?_iff (hs : s ∈ page.spots) :
    (nodeOf? (outlineOf page) s).isSome ↔ s.base = .page := by
  constructor
  · intro h
    by_contra hbase
    rw [nodeOf?, path?_eq_none_iff.mpr hbase] at h
    cases h
  · intro hbase
    obtain ⟨path, hpath⟩ : ∃ path, s.path? = some path := by simp [Spot.path?, hbase]
    exact isSome_nodeOf? hs hpath

-- No element of the page has the node of the document.
theorem focusOf_eq_iff (hs : s ∈ page.spots) :
    focusOf (outlineOf page) (.element s) = focusOf (outlineOf page) .page ↔ s.base ≠ .page := by
  have hfocus : focusOf (outlineOf page) (.element s) = focusOf (outlineOf page) .page ↔
      (nodeOf? (outlineOf page) s).getD 0 = 0 := by simp [focusOf]
  rw [hfocus]
  constructor
  · intro h hbase
    obtain ⟨n, hn⟩ := Option.isSome_iff_exists.mp ((isSome_nodeOf?_iff hs).mpr hbase)
    obtain ⟨path, name, -, hkind⟩ := nodeOf?_eq_some hn
    rw [hn, Option.getD_some] at h
    rw [h, (holds_ofPage page).1] at hkind
    cases hkind
  · intro hbase
    rw [nodeOf?, path?_eq_none_iff.mpr hbase]
    rfl

theorem children_zero (page : Page) : (outlineOf page).children 0 = [1] := by
  obtain ⟨hroot, hrows⟩ := holds_ofPage page
  rw [Outline.children, Outline.descendants, List.filter_filter, hroot, Outline.span,
    Nat.zero_add, Nat.add_sub_cancel_left]
  exact XPath.filter_rows hrows Nat.zero_lt_one

-- A rule that is written as a path has its outline.
theorem select_ne_noOutline {rules : List Rule} {r : Rule} (hr : r ∈ rules) (scope : Scope) :
    select (sourceOf page rules) r.selector scope ≠ .error .noOutline := by
  rw [select_sourceOf hr, select, ready, Source.ofPage, if_pos rfl]
  intro h
  split at h
  · split at h <;> cases h
  · dsimp only at h
    split at h
    · cases h
    · split at h <;> cases h

-- The outline mirrors what of the page stands below its root and in no template: names, attributes,
-- texts and their order are the same, and elements and nodes are found from each other. An element
-- has a node, and path expressions are evaluated inside it, exactly if it stands in the page
-- itself.
theorem mirrors_page (page : Page) :
    ((outlineOf page).children 0 = [1] ∧
      nodeOf? (outlineOf page) page.rootSpot = some 1) ∧
    (∀ s ∈ page.spots, ∀ n, nodeOf? (outlineOf page) s = some n → Mirrors page s n) ∧
    (∀ s ∈ page.spots, ∀ n, nodeOf? (outlineOf page) s = some n ↔
      IsElement page n ∧ spotOf? page (outlineOf page) n = some s) ∧
    (∀ n, IsElement page n → ∃ s ∈ page.document, s.base = .page ∧
      matchOf page (outlineOf page) n = .element s ∧ nodeOf? (outlineOf page) s = some n) ∧
    (∀ s ∈ page.spots, ((nodeOf? (outlineOf page) s).isSome ↔ s.base = .page) ∧
      (focusOf (outlineOf page) (.element s) = focusOf (outlineOf page) .page ↔
        s.base ≠ .page)) ∧
    ∀ rules, ∀ r ∈ rules, ∀ scope,
      select (sourceOf page rules) r.selector scope ≠ .error .noOutline := by
  have hroot : ((outlineOf page).row 1).kind.path? = some [] := by
    rw [(XPath.holds_element (holds_ofPage page).2).1]
    rfl
  exact ⟨⟨children_zero page, nodeOf?_of_row rfl hroot⟩,
    fun s hs n h => mirrors_of_nodeOf? hs h, fun s hs n => nodeOf?_eq_some_iff hs,
    fun n h => exists_of_isElement h,
    fun s hs => ⟨isSome_nodeOf?_iff hs, focusOf_eq_iff hs⟩,
    fun rules r hr scope => select_ne_noOutline hr scope⟩

-- ### A template with an item

def templatedText : String :=
  "<h2>Outside</h2><template><div id=\"1\"><h2>Inside</h2></div></template>"

def templated : Page :=
  ⟨tag "html" 1, [.element (tag "head" 2) [], .element (tag "body" 3)
    [.element (tag "h2" 4) [.text "Outside"], .element (tag "template" 6)
      [.contents [.element ⟨.html, "div", [⟨.none, "id", "1"⟩], 8⟩
        [.element (tag "h2" 9) [.text "Inside"]]]]]], []⟩

def innerItem : Spot := spotAt templated 4

def eachDiv : Rule := ⟨"id", ⟨.css, "div"⟩, .attribute "id"⟩

theorem spots_templated : templated.spots = templated.document := by
  have hloose : Page.looseSpots templated.loose = [] := rfl
  refine Page.spots_eq ?_ (by decide)
  rw [hloose, List.append_nil]

theorem select_ownTitle_innerItem :
    select (ready templated) ownTitle.selector (.element innerItem) =
      .ok [.element (spotAt templated 2)] := by
  have hwalk : XPath.walk (outlineOf templated)
      [.mk .itself .node [], .mk .descendantOrSelf .node [], .mk .child (.name none "h2") []] [0] =
        .ok [7] := by
    rw [outlineOf_eq, XPath.walk_of_pairwise rfl (by decide +kernel),
      XPath.walk_of_pairwise rfl (by decide +kernel),
      XPath.walk_of_pairwise rfl (by decide +kernel)]
    rfl
  refine (select_path rfl rfl rfl rfl hwalk).trans ?_
  rw [outlineOf_eq]
  rfl

-- The item stands below the root, but has no node; so its title is looked for in the whole page,
-- and the one inside of it is not even found there.
theorem title_outside_item :
    (Html.read templatedText).document.map Spot.element = templated.document.map Spot.element ∧
    innerItem ∈ templated.document ∧ nodeOf? (outlineOf templated) innerItem = none ∧
    focusOf (outlineOf templated) (.element innerItem) = focusOf (outlineOf templated) .page ∧
    records templated [eachDiv, ownTitle] = [[("id", "1"), ("title", "Outside")]] := by
  have hmem : innerItem ∈ templated.rootSpot.below :=
    List.mem_of_getElem? (show templated.rootSpot.below[4]? = some innerItem from rfl)
  have hitems : items (ready templated) eachDiv = .ok [innerItem] := by
    rw [items_css rfl rfl, spots_templated]
    rfl
  have htitle : valueOf (ready templated) (.element innerItem) ownTitle = "Outside" := by
    rw [valueOf, select_ownTitle_innerItem]
    rfl
  have hentries : entriesOf (ready templated) [eachDiv, ownTitle] (.element innerItem) =
      [("id", "1"), ("title", "Outside")] :=
    congrArg (fun value => [("id", "1"), ("title", value)]) htitle
  refine ⟨by decide +kernel, List.mem_cons_of_mem _ hmem, rfl, rfl, ?_⟩
  have hrecord : record (ready templated) [eachDiv, ownTitle] (.element innerItem) =
      [("id", "1"), ("title", "Outside")] := by
    rw [record_eq, hentries]
    rfl
  rw [records_of_ok hitems List.mem_cons_self rfl]
  exact congrArg (fun rec => [rec]) hrecord

end Extract

end Spiderworks
