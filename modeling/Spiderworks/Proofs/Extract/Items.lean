import Spiderworks.Extract.Records
import Spiderworks.Proofs.Page.Descent
import Spiderworks.Proofs.XPath.Inward
import Spiderworks.Proofs.XPath.Labels

namespace Spiderworks.Extract

open Spiderworks.Page (Spot Copy)
open Spiderworks.XPath (Outline)

variable {page : Page} {item s t : Spot} {sel : Selector} {found : List Match} {n m : Nat}
  {path way : List Nat}

-- ### The outline of a page

theorem outlineOf_eq (page : Page) : outlineOf page =
    ⟨(XPath.documentRows (Copy.ofPage page)).toArray, (outlineOf page).find?⟩ :=
  congrArg (Outline.mk · _) (XPath.copies_ofMirror page)

-- The copy of an element has a row for every element that is reached from it.
theorem exists_row_of_down (h : Spot.Down s way t) (path : List Nat) (parent next : Nat) :
    ∃ r ∈ XPath.rowsOf parent next
      (Copy.ofNode path (.element s.here.element s.here.children)),
      ∃ name, r.kind = .element (path ++ way) name := by
  induction h generalizing path parent next with
  | here s =>
      rw [Copy.ofNode, XPath.rowsOf, XPath.rows, List.append_nil]
      exact ⟨_, List.mem_cons_self, s.here.element.name, rfl⟩
  | @child s t way level hlevel _ ih =>
      rw [Copy.ofNode, XPath.rowsOf, XPath.rowsOf, List.append_nil, XPath.rows, hlevel,
        Copy.ofNodes_append, Copy.ofNodes, XPath.rowsOf_append, XPath.rowsOf_append]
      obtain ⟨r, hr, name, hname⟩ := ih (path ++ [0 + level.left.reverse.length]) _ _
      refine ⟨r, ?_, name, ?_⟩
      · refine List.mem_cons_of_mem _ (List.mem_cons_of_mem _ (List.mem_append_right _ ?_))
        exact List.mem_append_right _ (List.mem_append_left _ hr)
      · rw [hname, Nat.zero_add, List.length_reverse, List.append_assoc, List.singleton_append]

theorem isSome_nodeOf? (hitem : item ∈ page.spots) (hpath : item.path? = some path) :
    (nodeOf? (outlineOf page) item).isSome := by
  obtain ⟨r, hr, name, hkind⟩ := exists_row_of_down (Page.down_of_path? hitem hpath) [] 0 1
  have hmem : path ∈ (XPath.pairsIn page).map (·.1) := by
    rw [XPath.pairsIn, XPath.map_fst_pairsOf 0 1]
    exact List.mem_filterMap.mpr ⟨r, hr, congrArg XPath.Kind.path? hkind⟩
  obtain ⟨⟨path, place⟩, hpair, rfl⟩ := List.mem_map.mp hmem
  obtain ⟨n, hn, -⟩ := XPath.exists_find?_ofMirror hpair
  rw [nodeOf?, hpath, Option.bind_some]
  exact Option.isSome_of_eq_some hn

theorem nodeOf?_eq_some (h : nodeOf? (outlineOf page) item = some n) :
    ∃ path name, item.path? = some path ∧
      ((outlineOf page).row n).kind = .element path name := by
  obtain ⟨path, hpath, hfind⟩ := Option.bind_eq_some_iff.mp h
  obtain ⟨name, hkind⟩ := XPath.eq_element_of_path? (XPath.find?_ofMirror.mp hfind)
  exact ⟨path, name, hpath, hkind⟩

theorem mem_spots_of_spotOf? {o : Outline} (h : spotOf? page o m = some s) : s ∈ page.spots := by
  have hmem : s ∈ page.rootSpot :: page.rootSpot.below := by
    unfold spotOf? at h
    split at h
    · cases h
      exact List.mem_cons_self
    · exact List.mem_of_find?_eq_some h
    · cases h
  exact List.mem_mergeSort.mpr (List.mem_append_left _ hmem)

-- What is inside the node of an item was made from what is at or below the item.
theorem mem_of_spotOf? (hitem : item ∈ page.spots) (hnode : nodeOf? (outlineOf page) item = some n)
    (hm : (outlineOf page).Inside n m) (hs : spotOf? page (outlineOf page) m = some s) :
    s ∈ item :: item.below := by
  have htree : (outlineOf page).Tree := (XPath.copies_ofMirror page).tree
  obtain ⟨path, name, hpath, hkind⟩ := nodeOf?_eq_some hnode
  have hspot := mem_spots_of_spotOf? hs
  unfold spotOf? at hs
  split at hs
  · rename_i hroot
    rcases hm with rfl | ⟨hlt, hm⟩
    · rw [hkind] at hroot
      cases hroot
    · exact absurd hroot (htree.noRoot n m hlt hm)
  · rename_i q name' hq
    have hprefix : path <+: q := by
      rcases hm with rfl | ⟨hlt, hm⟩
      · rw [hkind] at hq
        cases hq
        exact List.prefix_refl _
      · exact htree.leads n m hlt hm _ _ _ _ hkind hq
    obtain ⟨more, rfl⟩ := hprefix
    exact Page.mem_below_of_path? hitem hspot hpath (by simpa using List.find?_some hs)
  · cases hs

-- ### Selectors

variable {source : Source} {scope : Scope} {e : XPath.Expr} {r : Rule} {spots : List Spot}

theorem exists_of_mem_matchesOf {o : Outline} {v : XPath.Value}
    (h : .element s ∈ matchesOf page o v) :
    ∃ ns m, v = .nodes ns ∧ m ∈ ns ∧ spotOf? page o m = some s := by
  cases v with
  | nodes ns =>
      obtain ⟨m, hm, hmatch⟩ := List.mem_map.mp h
      refine ⟨ns, m, rfl, hm, ?_⟩
      unfold matchOf at hmatch
      split at hmatch
      · rename_i hspot
        cases hmatch
        exact hspot
      · cases hmatch
  | boolean | number | text => simp [matchesOf] at h

theorem exists_of_select_css (hsel : sel.dialect = .css) (h : select source sel scope = .ok found) :
    ∃ parsed, found = selectCss source.page parsed scope := by
  simp only [select, hsel] at h
  split at h
  · rename_i parsed _
    cases h
    exact ⟨parsed, rfl⟩
  · cases h

theorem exists_of_select_xpath (hsel : sel.dialect = .xpath)
    (h : select source sel scope = .ok found) : ∃ o e v, source.outline = some o ∧
      XPath.read? sel.expression = some e ∧ e.value o (focusOf o scope) = .ok v ∧
      found = matchesOf source.page o v := by
  simp only [select, hsel] at h
  split at h
  · cases h
  · rename_i o ho
    split at h
    · cases h
    · rename_i e he
      split at h
      · rename_i v hv
        cases h
        exact ⟨o, e, v, ho, he, hv, rfl⟩
      · cases h

theorem select_path {o : Outline} {start : XPath.Expr} {steps : List XPath.Step} {ns ms : List Nat}
    (hsel : sel.dialect = .xpath) (ho : source.outline = some o)
    (hread : XPath.read? sel.expression = some (.path start steps))
    (hstart : start.value o (focusOf o scope) = .ok (.nodes ns))
    (hwalk : XPath.walk o steps ns = .ok ms) :
    select source sel scope = .ok (ms.map (matchOf source.page o)) := by
  have hvalue : (XPath.Expr.path start steps).value o (focusOf o scope) = .ok (.nodes ms) := by
    rw [XPath.Expr.value]
    refine bind_eq_ok_iff.mpr ⟨_, hstart, bind_eq_ok_iff.mpr ⟨ns, rfl, ?_⟩⟩
    exact bind_eq_ok_iff.mpr ⟨ms, hwalk, rfl⟩
  simp only [select, hsel, ho, hread, hvalue]
  rfl

-- The items of a page are elements of it.
theorem mem_spots_of_items (h : items source r = .ok spots) (hs : s ∈ spots) :
    s ∈ source.page.spots := by
  obtain ⟨found, hfound, rfl⟩ := map_eq_ok_iff.mp h
  obtain ⟨match_, hmem, hspot⟩ := List.mem_filterMap.mp hs
  cases match_ with
  | value text => cases hspot
  | element t =>
      cases hspot
      cases hsel : r.selector.dialect with
      | css =>
          obtain ⟨parsed, rfl⟩ := exists_of_select_css hsel hfound
          obtain ⟨u, hu, heq⟩ := List.mem_map.mp hmem
          cases heq
          exact (List.mem_filter.mp hu).1
      | xpath =>
          obtain ⟨o, e, v, -, -, -, rfl⟩ := exists_of_select_xpath hsel hfound
          obtain ⟨ns, m, -, -, hm⟩ := exists_of_mem_matchesOf hmem
          exact mem_spots_of_spotOf? hm

theorem exists_items {parsed : Css.Selector} (hsel : r.selector.dialect = .css)
    (hread : Css.Selector.read? r.selector.expression = some parsed)
    (hs : s ∈ source.page.spots) (hmatch : parsed.matches none s = true) :
    ∃ spots, items source r = .ok spots ∧ s ∈ spots := by
  refine ⟨(selectCss source.page parsed .page).filterMap Match.spot?, ?_, ?_⟩
  · simp [items, select, hsel, hread, Except.map]
  · refine List.mem_filterMap.mpr ⟨.element s, ?_, rfl⟩
    exact List.mem_map_of_mem (List.mem_filter.mpr ⟨hs, hmatch⟩)

theorem mem_of_select_css (hsel : sel.dialect = .css)
    (h : select source sel (.element item) = .ok found) (hs : .element s ∈ found) :
    s ∈ item :: item.below := by
  obtain ⟨parsed, rfl⟩ := exists_of_select_css hsel h
  rw [selectCss] at hs
  split at hs
  · split at hs
    · cases List.mem_singleton.mp hs
      exact List.mem_cons_self
    · cases hs
  · obtain ⟨t, ht, heq⟩ := List.mem_map.mp hs
    cases heq
    exact List.mem_cons_of_mem _ (List.mem_filter.mp ht).1

theorem mem_of_select_inward {b : Bool} (hitem : item ∈ page.spots) (hbase : item.base = .page)
    (hsel : sel.dialect = .xpath) (he : XPath.read? sel.expression = some e)
    (hinward : e.isInward = true)
    (h : select (Source.ofPage page b) sel (.element item) = .ok found)
    (hs : .element s ∈ found) : s ∈ item :: item.below := by
  obtain ⟨o, e', v, ho, he', hv, rfl⟩ := exists_of_select_xpath hsel h
  rw [he] at he'
  cases he'
  obtain ⟨ns, m, rfl, hm, hspot⟩ := exists_of_mem_matchesOf hs
  have houtline : o = outlineOf page := by
    cases b with
    | true => exact (Option.some.inj ho).symm
    | false => cases ho
  subst houtline
  obtain ⟨path, hpath⟩ : ∃ path, item.path? = some path := by simp [Spot.path?, hbase]
  obtain ⟨n, hn⟩ := Option.isSome_iff_exists.mp (isSome_nodeOf? hitem hpath)
  have hinside := XPath.inside_of_mem_value ((XPath.copies_ofMirror page).tree) e hinward hv hm
  rw [focusOf, hn] at hinside
  exact mem_of_spotOf? hitem hn hinside hspot

-- ### Where a selector looks elsewhere

theorem select_of_isRooted (hsel : sel.dialect = .xpath)
    (he : XPath.read? sel.expression = some e) (hrooted : e.isRooted = true) (item : Spot) :
    select source sel (.element item) = select source sel .page := by
  simp only [select, hsel, he]
  cases source.outline with
  | none => rfl
  | some o =>
      dsimp only
      rw [XPath.value_eq_of_isRooted e hrooted]

theorem select_of_base (hsel : sel.dialect = .xpath) (hbase : item.base ≠ .page) :
    select source sel (.element item) = select source sel .page := by
  have hnone : item.path? = none := by
    unfold Spot.path?
    split
    · rename_i hpage
      exact absurd hpage hbase
    · rfl
  have hfocus (o : Outline) : focusOf o (.element item) = focusOf o .page := by
    simp [focusOf, nodeOf?, hnone]
  simp only [select, hsel, hfocus]

-- ### Records

-- The source in which the rules are applied to the page.
def sourceOf (page : Page) (rules : List Rule) : Source :=
  Source.ofPage page (rules.any Rule.usesXPath)

-- An element that the first rule finds in the page.
def IsItem (page : Page) (rules : List Rule) (item : Spot) : Prop :=
  ∃ first ∈ rules.head?, ∃ spots, items (sourceOf page rules) first = .ok spots ∧ item ∈ spots

-- A rule puts the content of an element into the record of an item.
structure Puts (page : Page) (rules : List Rule) (item : Spot) (r : Rule) (s : Spot) : Prop where
  listed : r ∈ rules
  usable : r.isUsable = true
  first : ∃ others,
    select (sourceOf page rules) r.selector (.element item) = .ok (.element s :: others)

theorem Puts.valueOf_eq {rules : List Rule} (h : Puts page rules item r s) :
    valueOf (sourceOf page rules) (.element item) r = (Match.element s).take r.taking := by
  obtain ⟨others, hselect⟩ := h.first
  rw [valueOf, hselect]

-- A selector that looks only at its item and below it.
def LooksInside (sel : Selector) (item : Spot) : Prop :=
  match sel.dialect with
  | .css => True
  | .xpath => item.base = .page ∧
    ∃ e, XPath.read? sel.expression = some e ∧ e.isInward = true

-- A selector that looks at the whole page, whatever its item is.
def LooksAtPage (sel : Selector) (item : Spot) : Prop :=
  sel.dialect = .xpath ∧ (item.base ≠ .page ∨
    ∃ e, XPath.read? sel.expression = some e ∧ e.isRooted = true)

theorem LooksAtPage.select_eq (h : LooksAtPage sel item) :
    select source sel (.element item) = select source sel .page := by
  obtain ⟨hsel, hbase | ⟨e, he, hrooted⟩⟩ := h
  · exact select_of_base hsel hbase
  · exact select_of_isRooted hsel he hrooted item

theorem values_of_items (page : Page) (rules : List Rule) (item s : Spot) (r : Rule)
    (hitem : IsItem page rules item) (hputs : Puts page rules item r s) :
    (LooksInside r.selector item → s ∈ item :: item.below) ∧
    (LooksAtPage r.selector item →
      ∃ others, select (sourceOf page rules) r.selector .page = .ok (.element s :: others)) := by
  obtain ⟨first, -, spots, hitems, hmem⟩ := hitem
  obtain ⟨others, hselect⟩ := hputs.first
  constructor
  · intro hinside
    unfold LooksInside at hinside
    split at hinside
    · rename_i hsel
      exact mem_of_select_css hsel hselect List.mem_cons_self
    · rename_i hsel
      obtain ⟨hbase, e, he, hinward⟩ := hinside
      exact mem_of_select_inward (mem_spots_of_items hitems hmem) hbase hsel he hinward hselect
        List.mem_cons_self
  · intro houtside
    exact ⟨others, houtside.select_eq ▸ hselect⟩

-- ### A page with two items

def tag (name : String) (created : Nat) : Page.Element := ⟨.html, name, [], created⟩

def titled (id : String) (created : Nat) (title : String) : Page.Node :=
  .element ⟨.html, "li", [⟨.none, "id", id⟩], created⟩
    [.element (tag "h2" (created + 1)) [.text title]]

def twoItems : Page :=
  ⟨tag "html" 0, [.element (tag "head" 1) [], .element (tag "body" 2)
    [.element (tag "ul" 3) [titled "1" 4 "First", titled "2" 6 "Second"]]], []⟩

-- An element below the root, by its place in document order.
def spotAt (p : Page) (i : Nat) : Spot := p.rootSpot.below[i]?.getD p.rootSpot

def secondItem : Spot := spotAt twoItems 5

def eachItem : Rule := ⟨"id", ⟨.css, "li"⟩, .attribute "id"⟩

def title : Rule := ⟨"title", ⟨.css, "h2"⟩, .text⟩

def anyTitle : Rule := ⟨"title", ⟨.xpath, "//h2"⟩, .text⟩

def ownTitle : Rule := ⟨"title", ⟨.xpath, ".//h2"⟩, .text⟩

theorem secondItem_isItem (rest : List Rule) : IsItem twoItems (eachItem :: rest) secondItem := by
  refine ⟨eachItem, rfl, exists_items rfl rfl ?_ rfl⟩
  refine List.mem_mergeSort.mpr (List.mem_append_left _ (List.mem_cons_of_mem _ ?_))
  exact List.mem_of_getElem? (show twoItems.rootSpot.below[5]? = some secondItem from rfl)

theorem select_anyTitle : select (Source.ofPage twoItems true) anyTitle.selector .page =
    .ok [.element (spotAt twoItems 4), .element (spotAt twoItems 6)] := by
  have hwalk : XPath.walk (outlineOf twoItems)
      [.mk .descendantOrSelf .node [], .mk .child (.name none "h2") []] [0] = .ok [12, 18] := by
    rw [outlineOf_eq, XPath.walk_of_pairwise rfl (by decide +kernel),
      XPath.walk_of_pairwise rfl (by decide +kernel)]
    rfl
  refine (select_path rfl rfl rfl rfl hwalk).trans ?_
  rw [outlineOf_eq]
  rfl

theorem puts_anyTitle :
    Puts twoItems [eachItem, anyTitle] secondItem anyTitle (spotAt twoItems 4) := by
  refine ⟨List.mem_cons_of_mem _ List.mem_cons_self, rfl, [.element (spotAt twoItems 6)], ?_⟩
  exact (select_of_isRooted rfl rfl rfl secondItem).trans select_anyTitle

theorem puts_ownTitle :
    Puts twoItems [eachItem, ownTitle] secondItem ownTitle (spotAt twoItems 6) := by
  have hwalk : XPath.walk (outlineOf twoItems)
      [.mk .itself .node [], .mk .descendantOrSelf .node [], .mk .child (.name none "h2") []] [15] =
        .ok [18] := by
    rw [outlineOf_eq, XPath.walk_of_pairwise rfl (by decide +kernel),
      XPath.walk_of_pairwise rfl (by decide +kernel),
      XPath.walk_of_pairwise rfl (by decide +kernel)]
    rfl
  have hnode : nodeOf? (outlineOf twoItems) secondItem = some 15 := by decide +kernel
  have hstart : XPath.Expr.context.value (outlineOf twoItems)
      (focusOf (outlineOf twoItems) (.element secondItem)) = .ok (.nodes [15]) := by
    rw [focusOf, hnode]
    rfl
  refine ⟨List.mem_cons_of_mem _ List.mem_cons_self, rfl, [], ?_⟩
  refine (select_path rfl rfl rfl hstart hwalk).trans ?_
  rw [outlineOf_eq]
  rfl

-- The title of the first item is put into the record of the second.
theorem title_of_other_item : ∃ s,
    IsItem twoItems [eachItem, anyTitle] secondItem ∧
      Puts twoItems [eachItem, anyTitle] secondItem anyTitle s ∧
      valueOf (sourceOf twoItems [eachItem, anyTitle]) (.element secondItem) anyTitle = "First" ∧
      s ∉ secondItem :: secondItem.below := by
  refine ⟨_, secondItem_isItem _, puts_anyTitle, puts_anyTitle.valueOf_eq.trans rfl, ?_⟩
  -- It came into being before the item did.
  have hlater : ∀ t ∈ secondItem :: secondItem.below, 6 ≤ t.element.created := by decide
  exact fun hmem => absurd (hlater _ hmem) (by decide)

theorem values_of_two_items :
    (Puts twoItems [eachItem, title] secondItem title (spotAt twoItems 6) ∧
      spotAt twoItems 6 ∈ secondItem :: secondItem.below) ∧
    (Puts twoItems [eachItem, ownTitle] secondItem ownTitle (spotAt twoItems 6) ∧
      spotAt twoItems 6 ∈ secondItem :: secondItem.below) ∧
    Puts twoItems [eachItem, anyTitle] secondItem anyTitle (spotAt twoItems 4) ∧
      ∃ others, select (sourceOf twoItems [eachItem, anyTitle]) anyTitle.selector .page =
        .ok (.element (spotAt twoItems 4) :: others) := by
  have htitle : Puts twoItems [eachItem, title] secondItem title (spotAt twoItems 6) :=
    ⟨List.mem_cons_of_mem _ List.mem_cons_self, rfl, [], rfl⟩
  refine ⟨⟨htitle, ?_⟩, ⟨puts_ownTitle, ?_⟩, puts_anyTitle, ?_⟩
  · exact (values_of_items twoItems [eachItem, title] secondItem _ title
      (secondItem_isItem _) htitle).1 trivial
  · exact (values_of_items twoItems [eachItem, ownTitle] secondItem _ ownTitle
      (secondItem_isItem _) puts_ownTitle).1 ⟨rfl, _, rfl, rfl⟩
  · exact (values_of_items twoItems [eachItem, anyTitle] secondItem _ anyTitle
      (secondItem_isItem _) puts_anyTitle).2 ⟨rfl, .inr ⟨_, rfl, rfl⟩⟩

end Spiderworks.Extract
