import Spiderworks.Proofs.Fallible
import Spiderworks.Rules.RuleSet

namespace Spiderworks

open Text (asciiLowerString)

variable {stored : StoredRule} {v : Json} {r : Rule} {fault : RuleFault} {dialect : Dialect}
  {taking : Taking}

-- ### Names

-- Letters of either case name a dialect; the empty name is as good as none.
def NamesDialect (name : Option String) : Dialect → Prop
  | .css => name = none ∨
    ∃ t, name = some t ∧ (asciiLowerString t = "" ∨ asciiLowerString t = "css")
  | .xpath => ∃ t, name = some t ∧ asciiLowerString t = "xpath"

-- Only an attribute has to be named too.
def NamesTaking (name target : Option String) : Taking → Prop
  | .text => name = none ∨ name = some "" ∨ name = some "text"
  | .html => name = some "html"
  | .attribute a => name = some "attr" ∧ target = some a ∧ a ≠ ""

theorem StoredRule.dialect_eq_ok_iff :
    stored.dialect = .ok dialect ↔ NamesDialect stored.selectorType dialect := by
  rw [StoredRule.dialect]
  cases hname : stored.selectorType with
  | none => cases dialect <;> simp [NamesDialect, asciiLowerString]
  | some t =>
      rw [Option.getD_some]
      split
      · rename_i hlower
        cases dialect <;> simp [NamesDialect, hlower]
      · rename_i hlower
        cases dialect <;> simp [NamesDialect, hlower]
      · rename_i hlower
        cases dialect <;> simp [NamesDialect, hlower]
      · rename_i hempty hcss hxpath
        cases dialect with
        | css => simpa [NamesDialect] using ⟨hempty, hcss⟩
        | xpath => simpa [NamesDialect] using hxpath

theorem StoredRule.dialect_eq_error_iff : stored.dialect = .error fault ↔
    ∃ t, stored.selectorType = some t ∧ fault = .selectorType (asciiLowerString t) ∧
      asciiLowerString t ∉ ["", "css", "xpath"] := by
  rw [StoredRule.dialect]
  cases hname : stored.selectorType with
  | none => simp [asciiLowerString]
  | some t =>
      rw [Option.getD_some]
      split
      · rename_i hlower
        simp [hlower]
      · rename_i hlower
        simp [hlower]
      · rename_i hlower
        simp [hlower]
      · rename_i hempty hcss hxpath
        have hunknown : asciiLowerString t ∉ ["", "css", "xpath"] := by
          simpa using ⟨hempty, hcss, hxpath⟩
        constructor
        · rintro ⟨⟩
          exact ⟨t, rfl, rfl, hunknown⟩
        · rintro ⟨_, ⟨⟩, rfl, -⟩
          rfl

theorem StoredRule.takes_eq_ok_iff :
    stored.takes = .ok taking ↔ NamesTaking stored.taking stored.attributeName taking := by
  rw [StoredRule.takes]
  cases hname : stored.taking with
  | none => cases taking <;> simp [NamesTaking]
  | some t =>
      rw [Option.getD_some]
      split
      · cases taking <;> simp [NamesTaking]
      · cases taking <;> simp [NamesTaking]
      · cases taking <;> simp [NamesTaking]
      · cases hattribute : stored.attributeName with
        | none => cases taking <;> simp [NamesTaking]
        | some a =>
            rw [Option.getD_some]
            split
            · cases taking <;> simp [NamesTaking]
            · rename_i hempty
              cases taking with
              | text | html => simp [NamesTaking]
              | «attribute» b =>
                  constructor
                  · rintro ⟨⟩
                    exact ⟨rfl, rfl, hempty⟩
                  · rintro ⟨-, ⟨⟩, -⟩
                    rfl
      · rename_i hempty htext hhtml hattr
        cases taking with
        | text => simpa [NamesTaking] using ⟨hempty, htext⟩
        | html => simpa [NamesTaking] using hhtml
        | «attribute» a => exact iff_of_false nofun fun h => hattr (Option.some.inj h.1)

-- An attribute that is to be taken has no name, or what is to be taken is not known.
inductive NamesNoTaking (name target : Option String) : RuleFault → Prop
  | noAttribute (hname : name = some "attr") (h : ∀ a, target = some a → a = "") :
    NamesNoTaking name target .noAttribute
  | taking (t : String) (hname : name = some t) (h : t ∉ ["", "text", "html", "attr"]) :
    NamesNoTaking name target (.taking t)

theorem StoredRule.takes_eq_error_iff :
    stored.takes = .error fault ↔ NamesNoTaking stored.taking stored.attributeName fault := by
  rw [StoredRule.takes]
  constructor
  · intro h
    cases hname : stored.taking with
    | none =>
        rw [hname] at h
        cases h
    | some t =>
        rw [hname, Option.getD_some] at h
        split at h
        · cases h
        · cases h
        · cases h
        · split at h
          · rename_i hnone
            cases h
            exact .noAttribute rfl fun a ha => by simpa [ha] using hnone
          · cases h
        · rename_i hempty htext hhtml hattr
          cases h
          exact .taking t rfl (by simpa using ⟨hempty, htext, hhtml, hattr⟩)
  · rintro (⟨hname, hnone⟩ | ⟨t, hname, ht⟩)
    · have hattribute : stored.attributeName.getD "" = "" := by
        cases ha : stored.attributeName with
        | none => rfl
        | some a => exact hnone a ha
      simp [hname, hattribute]
    · simp only [List.mem_cons, List.not_mem_nil, or_false, not_or] at ht
      simp [hname, ht]

-- ### Rules

-- The rule that a value of a configuration stands for.
structure Makes (v : Json) (r : Rule) (stored : StoredRule) : Prop where
  reads : StoredRule.ofJson v = .ok stored
  field : r.field = stored.field
  expression : r.selector.expression = stored.selector
  dialect : NamesDialect stored.selectorType r.selector.dialect
  taking : NamesTaking stored.taking stored.attributeName r.taking

-- Each element by itself makes a rule or does not.
def MakesRule (v : Json) (r : Rule) : Prop := ∃ stored, Makes v r stored

def IsRule (v : Json) : Prop := ∃ r, MakesRule v r

-- How a value that makes no rule is refused.
inductive MakesNoRule (v : Json) : RuleFault → Prop
  | malformed (m : Misfit) (h : StoredRule.ofJson v = .error m) : MakesNoRule v (.malformed m)
  | selectorType (stored : StoredRule) (t : String) (h : StoredRule.ofJson v = .ok stored)
      (hname : stored.selectorType = some t)
      (hunknown : asciiLowerString t ∉ ["", "css", "xpath"]) :
    MakesNoRule v (.selectorType (asciiLowerString t))
  | taking (stored : StoredRule) (dialect : Dialect) (fault : RuleFault)
      (h : StoredRule.ofJson v = .ok stored) (hdialect : NamesDialect stored.selectorType dialect)
      (htaking : NamesNoTaking stored.taking stored.attributeName fault) : MakesNoRule v fault

theorem StoredRule.rule_eq_ok_iff : stored.rule = .ok r ↔
    stored.dialect = .ok r.selector.dialect ∧ stored.takes = .ok r.taking ∧
      r.field = stored.field ∧ r.selector.expression = stored.selector := by
  simp only [StoredRule.rule, bind_eq_ok_iff, pure, Except.pure, Except.ok.injEq]
  constructor
  · rintro ⟨dialect, hdialect, taking, htaking, rfl⟩
    exact ⟨hdialect, htaking, rfl, rfl⟩
  · rintro ⟨hdialect, htaking, hfield, hexpression⟩
    exact ⟨_, hdialect, _, htaking, by rw [← hfield, ← hexpression]⟩

theorem StoredRule.rule_eq_error_iff : stored.rule = .error fault ↔
    stored.dialect = .error fault ∨
      ∃ dialect, stored.dialect = .ok dialect ∧ stored.takes = .error fault := by
  simp only [StoredRule.rule, bind_eq_error_iff, pure, Except.pure, reduceCtorEq, and_false,
    exists_false, or_false]

namespace RuleSet

theorem readRule_eq_ok_iff : readRule v = .ok r ↔ MakesRule v r := by
  rw [readRule]
  cases hstored : StoredRule.ofJson v with
  | error m => exact iff_of_false nofun fun ⟨stored, h⟩ => by cases hstored.symm.trans h.reads
  | ok stored =>
      rw [StoredRule.rule_eq_ok_iff, StoredRule.dialect_eq_ok_iff, StoredRule.takes_eq_ok_iff]
      constructor
      · rintro ⟨hdialect, htaking, hfield, hexpression⟩
        exact ⟨stored, hstored, hfield, hexpression, hdialect, htaking⟩
      · rintro ⟨_, h⟩
        cases hstored.symm.trans h.reads
        exact ⟨h.dialect, h.taking, h.field, h.expression⟩

theorem readRule_eq_error_iff : readRule v = .error fault ↔ MakesNoRule v fault := by
  rw [readRule]
  cases hstored : StoredRule.ofJson v with
  | error m =>
      refine ⟨fun h => Except.error.inj h ▸ .malformed m hstored, fun h => ?_⟩
      cases h with
      | malformed _ h => cases hstored.symm.trans h; rfl
      | selectorType _ _ h => cases hstored.symm.trans h
      | taking _ _ _ h => cases hstored.symm.trans h
  | ok stored =>
      rw [StoredRule.rule_eq_error_iff, StoredRule.dialect_eq_error_iff,
        StoredRule.takes_eq_error_iff]
      simp only [StoredRule.dialect_eq_ok_iff]
      constructor
      · rintro (⟨t, hname, rfl, hunknown⟩ | ⟨dialect, hdialect, htaking⟩)
        · exact .selectorType stored t hstored hname hunknown
        · exact .taking stored dialect fault hstored hdialect htaking
      · intro h
        cases h with
        | malformed _ h => cases hstored.symm.trans h
        | selectorType _ t h hname hunknown =>
            cases hstored.symm.trans h
            exact .inl ⟨t, hname, rfl, hunknown⟩
        | taking _ dialect _ h hdialect htaking =>
            cases hstored.symm.trans h
            exact .inr ⟨dialect, hdialect, htaking⟩

theorem isRule_iff : IsRule v ↔ ∃ r, readRule v = .ok r := by
  simp only [IsRule, readRule_eq_ok_iff]

theorem not_isRule_iff : ¬IsRule v ↔ ∃ fault, MakesNoRule v fault := by
  simp only [isRule_iff, ← readRule_eq_error_iff]
  cases readRule v <;> simp

-- ### Lists of rules

variable {index : Nat} {items : List Json} {rules : List Rule} {e : RuleSetError}

theorem readRulesFrom_eq_ok_iff :
    readRulesFrom index items = .ok rules ↔ List.Forall₂ MakesRule items rules := by
  induction items generalizing index rules with
  | nil => simp [readRulesFrom, eq_comm]
  | cons v items ih =>
      rw [readRulesFrom, List.forall₂_cons_left_iff]
      simp only [← readRule_eq_ok_iff]
      cases hrule : readRule v with
      | error fault => simp
      | ok r =>
          rw [map_eq_ok_iff]
          simp only [ih, Except.ok.injEq]
          constructor
          · rintro ⟨rest, hrest, rfl⟩
            exact ⟨r, rest, rfl, hrest, rfl⟩
          · rintro ⟨_, rest, rfl, hrest, rfl⟩
            exact ⟨rest, hrest, rfl⟩

theorem forall_isRule_iff :
    (∀ v ∈ items, IsRule v) ↔ ∃ rules, List.Forall₂ MakesRule items rules := by
  induction items with
  | nil => simp
  | cons v items ih =>
      simp only [List.forall_mem_cons, ih, List.forall₂_cons_left_iff]
      constructor
      · rintro ⟨⟨r, hr⟩, rules, hrules⟩
        exact ⟨r :: rules, r, rules, hr, hrules, rfl⟩
      · rintro ⟨_, r, rules, hr, hrules, -⟩
        exact ⟨⟨r, hr⟩, rules, hrules⟩

-- The first element that makes no rule decides.
theorem readRulesFrom_eq_error_iff : readRulesFrom index items = .error e ↔
    ∃ before v after fault, items = before ++ v :: after ∧ (∀ w ∈ before, IsRule w) ∧
      MakesNoRule v fault ∧ e = .rule (index + before.length) fault := by
  induction items generalizing index with
  | nil => simp [readRulesFrom]
  | cons v items ih =>
      rw [readRulesFrom]
      cases hrule : readRule v with
      | error fault =>
          have hfault := readRule_eq_error_iff.mp hrule
          constructor
          · rintro ⟨⟩
            exact ⟨[], v, items, fault, rfl, nofun, hfault, rfl⟩
          · rintro ⟨before, w, after, other, hitems, hbefore, hother, rfl⟩
            cases before with
            | nil =>
                cases hitems
                cases hrule.symm.trans (readRule_eq_error_iff.mpr hother)
                rfl
            | cons u before =>
                cases hitems
                exact absurd (hbefore v List.mem_cons_self) (not_isRule_iff.mpr ⟨fault, hfault⟩)
      | ok r =>
          have hr : IsRule v := isRule_iff.mpr ⟨r, hrule⟩
          simp only [map_eq_error_iff, ih]
          constructor
          · rintro ⟨before, w, after, fault, rfl, hbefore, hfault, rfl⟩
            refine ⟨v :: before, w, after, fault, rfl, List.forall_mem_cons.mpr ⟨hr, hbefore⟩,
              hfault, ?_⟩
            rw [List.length_cons, Nat.add_right_comm, Nat.add_assoc]
          · rintro ⟨before, w, after, fault, hitems, hbefore, hfault, rfl⟩
            cases before with
            | nil =>
                cases hitems
                exact absurd hr (not_isRule_iff.mpr ⟨fault, hfault⟩)
            | cons u before =>
                cases hitems
                refine ⟨before, w, after, fault, rfl,
                  fun x hx => hbefore x (List.mem_cons_of_mem _ hx), hfault, ?_⟩
                rw [List.length_cons, Nat.add_right_comm, Nat.add_assoc]

end RuleSet

end Spiderworks
