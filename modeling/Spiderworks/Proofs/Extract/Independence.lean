import Spiderworks.Proofs.Extract.Records

namespace Spiderworks.Extract

variable {page : Page} {source : Source} {rules before after rest : List Rule} {first r r' : Rule}
  {scope : Scope}

-- ### Another rule in the place of one

theorem fieldNames_replace (hfield : r'.field = r.field) (hr : r.isUsable = true)
    (hr' : r'.isUsable = true) (before after : List Rule) :
    fieldNames (before ++ r' :: after) = fieldNames (before ++ r :: after) := by
  rw [fieldNames, fieldNames, List.filter_append, List.filter_append,
    List.filter_cons_of_pos hr, List.filter_cons_of_pos hr', List.map_append, List.map_append,
    List.map_cons, List.map_cons, hfield]

theorem get?_record_other (hr : r.isUsable = true) {other : String} (hother : r.field ≠ other) :
    Entries.get? (record source (before ++ r :: after) scope) other =
      Entries.get? (Entries.ofList (entriesOf source before scope ++ entriesOf source after scope))
        other := by
  rw [record_eq, entriesOf_append hr, Entries.get?_ofList_other hother]

-- Two records with the same fields, and with the same values in all of them but one.
structure AgreeBut (field : String) (rec rec' : Record) : Prop where
  fields : rec.map (·.1) = rec'.map (·.1)
  others : ∀ other, field ≠ other → Entries.get? rec other = Entries.get? rec' other

theorem agreeBut_record (hfield : r'.field = r.field) (hr : r.isUsable = true)
    (hr' : r'.isUsable = true) (source : Source) (before after : List Rule) (scope : Scope) :
    AgreeBut r.field (record source (before ++ r :: after) scope)
      (record source (before ++ r' :: after) scope) := by
  constructor
  · rw [keys_record, keys_record, fieldNames_replace hfield hr hr']
  · intro other hother
    rw [get?_record_other hr hother, get?_record_other hr' (hfield ▸ hother)]

theorem other_fields_kept (page : Page) (first r r' : Rule) (before after : List Rule)
    (hfield : r'.field = r.field) (hr : r.isUsable = true) (hr' : r'.isUsable = true) :
    (records page (first :: (before ++ r :: after))).length =
      (records page (first :: (before ++ r' :: after))).length ∧
    List.Forall₂ (AgreeBut r.field) (records page (first :: (before ++ r :: after)))
      (records page (first :: (before ++ r' :: after))) := by
  suffices h : List.Forall₂ (AgreeBut r.field) (records page (first :: (before ++ r :: after)))
      (records page (first :: (before ++ r' :: after))) from ⟨h.length_eq, h⟩
  have hmem (t : Rule) : t ∈ first :: (before ++ t :: after) :=
    List.mem_cons_of_mem _ (List.mem_append_right _ List.mem_cons_self)
  cases hitems : items (ready page) first with
  | error e =>
      rw [records_of_error hitems, records_of_error hitems]
      exact .nil
  | ok spots =>
      rw [records_of_ok hitems (hmem r) hr, records_of_ok hitems (hmem r') hr',
        List.forall₂_map_left_iff, List.forall₂_map_right_iff]
      exact List.forall₂_same.mpr fun scope _ =>
        agreeBut_record hfield hr hr' (ready page) (first :: before) after scope

def content : Rule := ⟨"content", ⟨.css, "li"⟩, .text⟩

-- The path expression needs an outline, which the other rules do without.
theorem other_fields_of_two_items :
    records twoItems [eachItem, title, content] =
      [[("id", "1"), ("title", "First"), ("content", "First")],
        [("id", "2"), ("title", "Second"), ("content", "Second")]] ∧
    List.Forall₂ (AgreeBut "title") (records twoItems [eachItem, title, content])
      (records twoItems [eachItem, anyTitle, content]) := by
  have hspots : twoItems.spots = twoItems.document := Page.spots_eq (.refl _) (by decide)
  have hitems : items (ready twoItems) eachItem = .ok [spotAt twoItems 3, spotAt twoItems 5] := by
    rw [items_css rfl rfl, hspots]
    rfl
  constructor
  · rw [records_of_ok hitems List.mem_cons_self rfl]
    rfl
  · exact (other_fields_kept twoItems eachItem title anyTitle [] [content] rfl rfl rfl).2

-- ### Rules that are not usable

theorem record_filter (source : Source) (first : Rule) (rest : List Rule) :
    record source (first :: rest.filter Rule.isUsable) = record source (first :: rest) := by
  funext scope
  simp only [record, List.filter_cons, List.filter_filter, Bool.and_self]

theorem records_filter (page : Page) (first : Rule) (rest : List Rule) :
    records page (first :: rest) = records page (first :: rest.filter Rule.isUsable) := by
  rw [records_eq, records_eq]
  cases hitems : items (ready page) first with
  | error e => rw [applyRules_of_error hitems, applyRules_of_error hitems]
  | ok spots => rw [applyRules_of_ok hitems, applyRules_of_ok hitems, record_filter]

theorem records_ne_nil {spots : List Page.Spot} (hitems : items (ready page) first = .ok spots)
    (hr : r ∈ first :: rest) (husable : r.isUsable = true) : records page (first :: rest) ≠ [] := by
  rw [records_of_ok hitems hr husable]
  cases spots with
  | nil | cons => exact List.cons_ne_nil _ _

-- A usable rule that means nothing in any page.
def broken : Rule := ⟨"all", ⟨.css, "["⟩, .text⟩

theorem items_broken (source : Source) : items source broken = .error (.css "[") := by
  rfl

theorem items_of_empty (source : Source) (h : r.selector.expression = "") :
    ∃ e, items source r = .error e := by
  have hcss : Css.Selector.read? "" = none := by rfl
  have hxpath : XPath.read? "" = none := by rfl
  unfold items select
  cases r.selector.dialect with
  | css => simp [h, hcss, Except.map]
  | xpath => cases source.outline <;> simp [h, hxpath, Except.map]

-- An unusable rule in front decides about the records all the same: where it means something, it
-- gives records that the rules behind it would not give, and otherwise it takes theirs away.
theorem isUsable_of_records_filter (h : ∀ rest, records page (first :: rest) =
    records page ((first :: rest).filter Rule.isUsable)) : first.isUsable = true := by
  by_contra hunusable
  have hbehind (r : Rule) (hr : r.isUsable = true) :
      records page [first, r] = records page [r] := by
    rw [h [r], List.filter_cons_of_neg hunusable, List.filter_cons_of_pos hr, List.filter_nil]
  cases hitems : items (ready page) first with
  | error e =>
      have hsome : records page [whole] ≠ [] :=
        records_ne_nil (items_css rfl rfl) List.mem_cons_self rfl
      rw [← hbehind whole rfl, records_of_error hitems] at hsome
      exact hsome rfl
  | ok spots =>
      have hsome : records page [first, broken] ≠ [] :=
        records_ne_nil (r := broken) hitems (List.mem_cons_of_mem _ List.mem_cons_self) rfl
      rw [hbehind broken rfl, records_of_error (items_broken _)] at hsome
      exact hsome rfl

theorem unusable_rules_iff (page : Page) (first : Rule) :
    (∀ rest, records page (first :: rest) = records page (first :: rest.filter Rule.isUsable)) ∧
    ((∀ rest, records page (first :: rest) = records page ((first :: rest).filter Rule.isUsable)) ↔
      first.isUsable = true) ∧
    (first.selector.expression = "" → ∀ rest, records page (first :: rest) = []) := by
  refine ⟨records_filter page first, ⟨isUsable_of_records_filter, fun husable rest => ?_⟩,
    fun hempty rest => ?_⟩
  · rw [List.filter_cons_of_pos husable, ← records_filter]
  · obtain ⟨e, hitems⟩ := items_of_empty (ready page) hempty
    exact records_of_error hitems

def heading : Page :=
  ⟨tag "html" 1, [.element (tag "head" 2) [], .element (tag "body" 3)
    [.element (tag "h1" 4) [.text "T"]]], []⟩

def nothing : Rule := ⟨"", ⟨.css, ""⟩, .text⟩

def headingTitle : Rule := ⟨"title", ⟨.css, "h1"⟩, .text⟩

theorem first_rule_hides : records heading [nothing, headingTitle] = [] ∧
    records heading ([nothing, headingTitle].filter Rule.isUsable) = [[("title", "T")]] := by
  have hspots : heading.spots = heading.document := Page.spots_eq (.refl _) (by decide)
  have hitems : items (ready heading) headingTitle = .ok [spotAt heading 2] := by
    rw [items_css rfl rfl, hspots]
    rfl
  have hfilter : [nothing, headingTitle].filter Rule.isUsable = [headingTitle] := rfl
  have hnothing : items (ready heading) nothing = .error (.css "") := rfl
  constructor
  · rw [records_of_error hnothing]
  · rw [hfilter, records_of_ok hitems List.mem_cons_self rfl]
    rfl

end Spiderworks.Extract
