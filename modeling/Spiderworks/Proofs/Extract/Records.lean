import Spiderworks.Proofs.Extract.DocumentOrder
import Spiderworks.Proofs.Extract.Items
import Spiderworks.Proofs.Json.Entries

namespace Spiderworks.Extract

open Spiderworks.Page (Spot)

variable {page : Page} {source : Source} {rules before after rest : List Rule} {first r : Rule}
  {scope : Scope} {spots : List Spot} {found : List Match}

-- ### The source of a page

-- The page with everything that a selector can need.
def ready (page : Page) : Source := Source.ofPage page true

-- A path expression among the rules has its outline.
theorem select_sourceOf (hr : r ∈ rules) (scope : Scope) :
    select (sourceOf page rules) r.selector scope = select (ready page) r.selector scope := by
  cases hdialect : r.selector.dialect with
  | css =>
      simp only [select, hdialect]
      rfl
  | xpath =>
      have huses : rules.any Rule.usesXPath = true :=
        List.any_eq_true.mpr ⟨r, hr, by rw [Rule.usesXPath, hdialect]; rfl⟩
      rw [sourceOf, huses, ready]

theorem items_sourceOf (hr : r ∈ rules) :
    items (sourceOf page rules) r = items (ready page) r := by
  rw [items, items, select_sourceOf hr]

-- ### One record

-- What the rules put into a record, one after the other.
def entriesOf (source : Source) (rules : List Rule) (scope : Scope) : List (String × String) :=
  (rules.filter Rule.isUsable).map fun r => (r.field, valueOf source scope r)

theorem record_eq (source : Source) (rules : List Rule) (scope : Scope) :
    record source rules scope = Entries.ofList (entriesOf source rules scope) := by
  rw [record, Entries.ofList, entriesOf, List.foldl_map]

theorem record_sourceOf (page : Page) (rules : List Rule) :
    record (sourceOf page rules) rules = record (ready page) rules := by
  funext scope
  have hvalues : ∀ r ∈ rules.filter Rule.isUsable,
      (r.field, valueOf (sourceOf page rules) scope r) =
        (r.field, valueOf (ready page) scope r) := fun r hr => by
    rw [valueOf, valueOf, select_sourceOf (List.mem_filter.mp hr).1]
  rw [record_eq, record_eq, entriesOf, entriesOf, List.map_congr_left hvalues]

theorem entriesOf_append (husable : r.isUsable = true) :
    entriesOf source (before ++ r :: after) scope =
      entriesOf source before scope ++ (r.field, valueOf source scope r) ::
        entriesOf source after scope := by
  rw [entriesOf, List.filter_append, List.filter_cons_of_pos husable, List.map_append,
    List.map_cons]
  rfl

-- The fields of the usable rules, each once, in the order of the first rules that have them.
def fieldNames (rules : List Rule) : List String :=
  ((rules.filter Rule.isUsable).map Rule.field).eraseDups

theorem keys_record (source : Source) (rules : List Rule) (scope : Scope) :
    (record source rules scope).map (·.1) = fieldNames rules := by
  rw [record_eq, Entries.keys_ofList, entriesOf, List.map_map]
  rfl

theorem record_ne_nil (hr : r ∈ rules) (husable : r.isUsable = true) :
    record source rules scope ≠ [] := by
  intro hnil
  have hfield : r.field ∈ fieldNames rules :=
    List.mem_eraseDups.mpr (List.mem_map_of_mem (List.mem_filter.mpr ⟨hr, husable⟩))
  rw [← keys_record source rules scope, hnil] at hfield
  cases hfield

theorem record_eq_nil (h : ∀ r ∈ rules, r.isUsable = false) : record source rules scope = [] := by
  have hnone : rules.filter Rule.isUsable = [] :=
    List.filter_eq_nil_iff.mpr fun r hr => Bool.eq_false_iff.mp (h r hr)
  rw [record, hnone]
  rfl

-- A usable rule whose field no usable rule behind it has.
def Decides (rules : List Rule) (r : Rule) : Prop :=
  ∃ before after, rules = before ++ r :: after ∧ r.isUsable = true ∧
    ∀ t ∈ after, t.isUsable = true → t.field ≠ r.field

theorem get?_record (h : Decides rules r) (source : Source) (scope : Scope) :
    Entries.get? (record source rules scope) r.field = some (valueOf source scope r) := by
  obtain ⟨before, after, rfl, husable, hlast⟩ := h
  rw [record_eq, entriesOf_append husable]
  refine Entries.get?_ofList_last (fun e he => ?_) _ _
  obtain ⟨t, ht, rfl⟩ := List.mem_map.mp he
  obtain ⟨hmem, ht⟩ := List.mem_filter.mp ht
  exact hlast t hmem ht

-- A record as the rules make it of a scope. The first match of the deciding rule gives the value.
structure Describes (source : Source) (rules : List Rule) (scope : Scope) (rec : Record) :
    Prop where
  fields : rec.map (·.1) = fieldNames rules
  found : ∀ r m others, Decides rules r → select source r.selector scope = .ok (m :: others) →
    Entries.get? rec r.field = some (m.take r.taking)
  missed : ∀ r, Decides rules r →
    (select source r.selector scope = .ok [] ∨ ∃ e, select source r.selector scope = .error e) →
    Entries.get? rec r.field = some ""

theorem describes_record (source : Source) (rules : List Rule) (scope : Scope) :
    Describes source rules scope (record source rules scope) := by
  refine ⟨keys_record source rules scope, fun r m others hr hselect => ?_, fun r hr hmissed => ?_⟩
  · rw [get?_record hr, valueOf, hselect]
  · rw [get?_record hr, valueOf]
    rcases hmissed with hselect | ⟨e, hselect⟩ <;> rw [hselect]

-- ### All records

-- A record is about an element, or about the page if there is none.
def scopesOf (spots : List Spot) : List Scope :=
  match spots with
  | [] => [.page]
  | spots => spots.map .element

theorem length_scopesOf (spots : List Spot) : (scopesOf spots).length = max spots.length 1 := by
  cases spots with
  | nil => rfl
  | cons s rest => simp [scopesOf]

theorem applyRules_of_ok (hitems : items source first = .ok spots) :
    applyRules source (first :: rest) =
      ((scopesOf spots).map (record source (first :: rest))).filter (!·.isEmpty) := by
  cases spots with
  | nil => simp [applyRules, hitems, scopesOf]
  | cons s others => simp [applyRules, hitems, scopesOf, Function.comp_def]

theorem applyRules_of_error {e : SelectError} (hitems : items source first = .error e) :
    applyRules source (first :: rest) = [] := by
  rw [applyRules, hitems]

theorem records_eq (page : Page) (rules : List Rule) :
    records page rules = applyRules (ready page) rules := by
  change applyRules (sourceOf page rules) rules = _
  cases rules with
  | nil => rfl
  | cons first rest =>
      have hsame : items (sourceOf page (first :: rest)) first = items (ready page) first :=
        items_sourceOf List.mem_cons_self
      cases hitems : items (ready page) first with
      | error e => rw [applyRules_of_error (hsame.trans hitems), applyRules_of_error hitems]
      | ok spots =>
          rw [applyRules_of_ok (hsame.trans hitems), applyRules_of_ok hitems, record_sourceOf]

theorem records_of_ok (hitems : items (ready page) first = .ok spots) (hr : r ∈ first :: rest)
    (husable : r.isUsable = true) :
    records page (first :: rest) =
      (scopesOf spots).map (record (ready page) (first :: rest)) := by
  rw [records_eq, applyRules_of_ok hitems]
  refine List.filter_eq_self.mpr fun rec hrec => ?_
  obtain ⟨scope, -, rfl⟩ := List.mem_map.mp hrec
  have hne : record (ready page) (first :: rest) scope ≠ [] := record_ne_nil hr husable
  simpa using hne

theorem records_of_error {e : SelectError} (hitems : items (ready page) first = .error e) :
    records page (first :: rest) = [] := by
  rw [records_eq, applyRules_of_error hitems]

theorem records_of_unusable (h : ∀ r ∈ rules, r.isUsable = false) : records page rules = [] := by
  rw [records_eq]
  cases rules with
  | nil => rfl
  | cons first rest =>
      cases hitems : items (ready page) first with
      | error e => exact applyRules_of_error hitems
      | ok spots =>
          rw [applyRules_of_ok hitems]
          refine List.filter_eq_nil_iff.mpr fun rec hrec => ?_
          obtain ⟨scope, -, rfl⟩ := List.mem_map.mp hrec
          simp [record_eq_nil h]

-- ### The elements that the records are about

def elementsOf (found : List Match) : List Spot := found.filterMap Match.spot?

theorem items_ready (page : Page) (first : Rule) (rest : List Rule) :
    items (ready page) first =
      (select (sourceOf page (first :: rest)) first.selector .page).map elementsOf := by
  rw [select_sourceOf List.mem_cons_self]
  rfl

theorem elementsOf_map (spots : List Spot) : elementsOf (spots.map .element) = spots := by
  rw [elementsOf, List.filterMap_map]
  exact List.filterMap_some

theorem elementsOf_css (page : Page) (parsed : Css.Selector) :
    elementsOf (selectCss page parsed .page) = page.spots.filter (parsed.matches none) := by
  rw [selectCss, elementsOf_map]

theorem elementsOf_nodes (page : Page) (o : XPath.Outline) (ns : List Nat) :
    elementsOf (ns.map (matchOf page o)) = ns.filterMap (spotOf? page o) := by
  have hspot (n : Nat) : (matchOf page o n).spot? = spotOf? page o n := by
    unfold matchOf
    cases spotOf? page o n with
    | some s | none => rfl
  rw [elementsOf, List.filterMap_map]
  exact List.filterMap_congr fun n _ => hspot n

theorem items_css {parsed : Css.Selector} (hsel : r.selector.dialect = .css)
    (hread : Css.Selector.read? r.selector.expression = some parsed) :
    items (ready page) r = .ok (page.spots.filter (parsed.matches none)) := by
  have hselect : select (ready page) r.selector .page = .ok (selectCss page parsed .page) := by
    simp only [select, hsel, hread]
    rfl
  rw [items, hselect, ← elementsOf_css]
  rfl

-- The document itself stands for its root, so that the root may be there twice.
theorem elementsOf_xpath {sel : Selector} (hsel : sel.dialect = .xpath)
    (h : select (ready page) sel .page = .ok found) :
    (elementsOf found).Sublist (page.rootSpot :: page.document) := by
  obtain ⟨o, e, v, ho, -, hv, rfl⟩ := exists_of_select_xpath hsel h
  obtain rfl : outlineOf page = o := Option.some.inj ho
  cases v with
  | nodes ns =>
      have hclosed : (outlineOf page).Closed := (XPath.copies_ofMirror page).closed
      rw [matchesOf, elementsOf_nodes]
      refine sublist_document (XPath.ascending_value e hv) fun n hn => ?_
      exact hclosed.lt_of_mem_value (Nat.zero_lt_succ _) e hv hn
  | boolean | number | text => exact List.nil_sublist _

-- ### What a page gives

-- There is no rule, none of them is usable, or the first one has a selector that means nothing.
inductive Fruitless (page : Page) : List Rule → Prop
  | empty : Fruitless page []
  | unusable {rules : List Rule} : (∀ r ∈ rules, r.isUsable = false) → Fruitless page rules
  | unread {first : Rule} {rest : List Rule} {e : SelectError} :
      select (sourceOf page (first :: rest)) first.selector .page = .error e →
      Fruitless page (first :: rest)

theorem Fruitless.records_eq_nil (h : Fruitless page rules) : records page rules = [] := by
  cases h with
  | empty => rfl
  | unusable h => exact records_of_unusable h
  | @unread first rest e h =>
      have hitems := items_ready page first rest
      rw [h] at hitems
      exact records_of_error hitems

-- One record for each of the elements that the first rule has found, in their order.
structure Lists (page : Page) (first : Rule) (rest : List Rule) (found : List Match) : Prop where
  count : (records page (first :: rest)).length = max (elementsOf found).length 1
  each : List.Forall₂ (Describes (sourceOf page (first :: rest)) (first :: rest))
    (scopesOf (elementsOf found)) (records page (first :: rest))
  xpath : first.selector.dialect = .xpath →
    (elementsOf found).Sublist (page.rootSpot :: page.document)
  css : first.selector.dialect = .css →
    (elementsOf found).Pairwise fun s t => s.element.created ≤ t.element.created

theorem lists_of_select (hselect : select (sourceOf page (first :: rest)) first.selector .page =
    .ok found) (hr : r ∈ first :: rest) (husable : r.isUsable = true) :
    Lists page first rest found := by
  have hitems := items_ready page first rest
  rw [hselect] at hitems
  have hrecords := records_of_ok hitems hr husable
  rw [← record_sourceOf] at hrecords
  have hready := (select_sourceOf List.mem_cons_self _).symm.trans hselect
  refine ⟨?_, ?_, fun hsel => elementsOf_xpath hsel hready, fun hsel => ?_⟩
  · rw [hrecords, List.length_map, length_scopesOf]
  · rw [hrecords, List.forall₂_map_right_iff]
    exact List.forall₂_same.mpr fun scope _ => describes_record _ _ scope
  · obtain ⟨parsed, rfl⟩ := exists_of_select_css hsel hselect
    rw [elementsOf_css]
    exact page.ascending_spots.filter _

-- All elements of the page.
def whole : Rule := ⟨"all", ⟨.css, "*"⟩, .text⟩

theorem select_whole (source : Source) :
    select source whole.selector .page = .ok (source.page.spots.map .element) := by
  have hall : source.page.spots.filter (Css.Selector.matches [.one [.any]] none) =
      source.page.spots := List.filter_eq_self.mpr fun _ _ => rfl
  exact congrArg (fun spots => Except.ok (spots.map Match.element)) hall

-- Selectors of CSS find elements in the order in which these came into being, those that were
-- taken out of the page among them.
theorem records_listed (page : Page) :
    (∀ rules, Fruitless page rules → records page rules = []) ∧
    (∀ first rest found, select (sourceOf page (first :: rest)) first.selector .page = .ok found →
      (∃ r ∈ first :: rest, r.isUsable = true) → Lists page first rest found) ∧
    ((∀ first rest found, first.selector.dialect = .css →
      select (sourceOf page (first :: rest)) first.selector .page = .ok found →
        (elementsOf found).Sublist page.document) ↔ page.CameInOrder) := by
  refine ⟨fun rules h => h.records_eq_nil, ?_, ?_, ?_⟩
  · rintro first rest found hselect ⟨r, hr, husable⟩
    exact lists_of_select hselect hr husable
  · intro h
    have hspots := h whole [] _ rfl (select_whole _)
    rw [elementsOf_map] at hspots
    exact page.cameInOrder_iff.mpr hspots
  · intro h first rest found hsel hselect
    obtain ⟨parsed, rfl⟩ := exists_of_select_css hsel hselect
    rw [elementsOf_css]
    exact List.filter_sublist.trans (page.cameInOrder_iff.mp h)

def cell (name id : String) (created : Nat) : Page.Node :=
  .element ⟨.html, name, [⟨.none, "id", id⟩], created⟩ []

-- What a table cannot hold is put in front of it.
def fostered : Page :=
  ⟨tag "html" 1, [.element (tag "head" 2) [], .element (tag "body" 3)
    [cell "p" "b" 5, cell "table" "a" 4]], []⟩

def eachId : Rule := ⟨"id", ⟨.css, "[id]"⟩, .attribute "id"⟩

theorem spots_fostered : fostered.spots = fostered.rootSpot ::
    [spotAt fostered 0, spotAt fostered 1, spotAt fostered 3, spotAt fostered 2] := by
  refine Page.spots_eq (.cons _ (.cons _ (.cons _ ?_))) (by decide)
  exact .swap ..

theorem records_out_of_order :
    (Html.read "<table id=\"a\"><p id=\"b\"></p></table>").document.map Spot.element =
      fostered.document.map Spot.element ∧
    fostered.document.filterMap (·.element.attribute? "id") = ["b", "a"] ∧
    records fostered [eachId] = [[("id", "a")], [("id", "b")]] := by
  have hitems : items (ready fostered) eachId =
      .ok [spotAt fostered 3, spotAt fostered 2] := by
    rw [items_css rfl rfl, spots_fostered]
    rfl
  refine ⟨by decide +kernel, rfl, ?_⟩
  rw [records_of_ok hitems List.mem_cons_self rfl]
  rfl

end Spiderworks.Extract
