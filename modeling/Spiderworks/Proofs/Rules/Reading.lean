import Spiderworks.Proofs.Rules.Config
import Spiderworks.Proofs.Rules.Stored
import Spiderworks.Proofs.Text.Trimmed

namespace Spiderworks.RuleSet

open Text (trimString isBlankText)

variable {config other : Config} {s s' : RuleSet} {e : RuleSetError}

-- ### Parts

inductive Part where
  | url
  | headers
  | delay
  | timeout
  | retries
  | rules
  deriving DecidableEq

namespace Part

def key : Part → String
  | url => "url"
  | headers => "headers"
  | delay => "delay"
  | timeout => "timeout"
  | retries => "retries"
  | rules => "rules"

-- In the order in which they are read.
def inOrder : List Part := [url, headers, delay, timeout, retries, rules]

def found (config : Config) (p : Part) : Option Json := Entries.get? config p.key

end Part

-- A part that is null is as good as missing.
def Absent (found : Option Json) : Prop := found = none ∨ found = some .null

-- A number of seconds that is a span of time, or none.
def IsWait (found : Option Json) : Prop :=
  Absent found ∨ ∃ n, found = some (.num n) ∧ IsSpan n.toFloat

def Part.Accepts : Part → Option Json → Prop
  | .url, found => ∃ text address, found = some (.str text) ∧ isBlankText text.toList = false ∧
      Url.parse (trimString text) = .ok address
  | .headers, found => Absent found ∨ ∃ entries, found = some (.obj entries)
  | .delay, found => IsWait found
  | .timeout, found => IsWait found ∧ ∀ n, found = some (.num n) → Decimal.value? n.toFloat ≠ some 0
  | .retries, found => Absent found ∨ ∃ k : Nat, found = some (.num (.whole k)) ∧ k < 2 ^ 32
  | .rules, found => Absent found ∨ ∃ items, found = some (.arr items) ∧ ∀ v ∈ items, IsRule v

-- How a part that is not acceptable is refused.
inductive Part.Refuses : Part → Option Json → RuleSetError → Prop
  | noUrl {found : Option Json}
      (h : ∀ text, found = some (.str text) → isBlankText text.toList = true) :
    Refuses .url found .noUrl
  | badUrl {text : String} {e : UrlError} (h : isBlankText text.toList = false)
      (herror : Url.parse (trimString text) = .error e) :
    Refuses .url (some (.str text)) (.badUrl (trimString text) e)
  | headers {found : Option Json} (h : ¬Part.headers.Accepts found) :
    Refuses .headers found .headers
  | delay {found : Option Json} (h : ¬IsWait found) : Refuses .delay found (.seconds "delay")
  | timeout {found : Option Json} (h : ¬IsWait found) : Refuses .timeout found (.seconds "timeout")
  | noTimeout {n : Number} (h : Decimal.value? n.toFloat = some 0) :
    Refuses .timeout (some (.num n)) .noTimeout
  | retries {found : Option Json} (h : ¬Part.retries.Accepts found) :
    Refuses .retries found .retries
  | notList {found : Option Json} (h : ¬Absent found) (hlist : ∀ items, found ≠ some (.arr items)) :
    Refuses .rules found .notList
  | rule {v : Json} {fault : RuleFault} (before after : List Json) (h : ∀ w ∈ before, IsRule w)
      (hfault : MakesNoRule v fault) :
    Refuses .rules (some (.arr (before ++ v :: after))) (.rule before.length fault)

-- ### One part at a time

theorem part_of_absent {key : String} (h : Absent (Entries.get? config key)) :
    part config key = .null := by
  rw [part]
  rcases h with h | h <;> rw [h] <;> rfl

theorem part_of_some {key : String} {v : Json} (h : Entries.get? config key = some v) :
    part config key = v := by
  rw [part, h, Option.getD_some]

-- A part that is neither missing nor null is a value of another kind.
theorem part_of_not_absent {key : String} (h : ¬Absent (Entries.get? config key)) :
    ∃ v, Entries.get? config key = some v ∧ part config key = v ∧ v ≠ .null := by
  cases hfound : Entries.get? config key with
  | none => exact absurd (.inl hfound) h
  | some v => exact ⟨v, rfl, part_of_some hfound, fun hv => h (.inr (hv ▸ hfound))⟩

theorem readUrl_eq (config : Config) : readUrl config =
    if isBlankText ((part config "url").string?.getD "").toList then .error .noUrl
    else
      match Url.parse (trimString ((part config "url").string?.getD "")) with
      | .ok _ => .ok (trimString ((part config "url").string?.getD ""))
      | .error e => .error (.badUrl (trimString ((part config "url").string?.getD "")) e) := by
  rw [readUrl]
  generalize (part config "url").string?.getD "" = text
  split
  · rename_i hblank
    rw [if_pos ((Text.trimString_eq_empty_iff text).mp hblank)]
  · rename_i hsome
    refine Eq.trans ?_ (if_neg fun hblank =>
      hsome ((Text.trimString_eq_empty_iff text).mpr hblank)).symm
    cases Url.parse (trimString text) <;> rfl

theorem readUrl_of_blank
    (h : ∀ text, Entries.get? config "url" = some (.str text) → isBlankText text.toList = true) :
    readUrl config = .error .noUrl := by
  rw [readUrl_eq]
  refine if_pos ?_
  rw [part]
  cases hfound : Entries.get? config "url" with
  | none => rfl
  | some v =>
      cases v with
      | str text => exact h text hfound
      | null | bool | num | arr | obj => rfl

theorem readUrl_of_text {text : String} (h : Entries.get? config "url" = some (.str text))
    (hsome : isBlankText text.toList = false) : readUrl config =
      match Url.parse (trimString text) with
      | .ok _ => .ok (trimString text)
      | .error e => .error (.badUrl (trimString text) e) := by
  have htext : (part config "url").string?.getD "" = text := by
    rw [part_of_some h]
    rfl
  rw [readUrl_eq, htext, if_neg (Bool.eq_false_iff.mp hsome)]

theorem readHeaders_of_absent (h : Absent (Entries.get? config "headers")) :
    readHeaders config = .ok [] := by
  rw [readHeaders, part_of_absent h]

theorem readHeaders_of_obj {entries : List (String × Json)}
    (h : Entries.get? config "headers" = some (.obj entries)) : readHeaders config =
      .ok ((entries.map fun e => (e.1, headerText e.2)).mergeSort fun a b => a.1 ≤ b.1) := by
  rw [readHeaders, part_of_some h]

theorem readHeaders_of_not (h : ¬Part.headers.Accepts (Entries.get? config "headers")) :
    readHeaders config = .error .headers := by
  obtain ⟨habsent, hobj⟩ := not_or.mp h
  obtain ⟨v, hfound, hv, hnull⟩ := part_of_not_absent habsent
  rw [readHeaders, hv]
  cases v with
  | null => exact absurd rfl hnull
  | obj entries => exact absurd ⟨entries, hfound⟩ hobj
  | bool | num | str | arr => rfl

variable {key : String} {fallback : Float}

theorem readSeconds_of_absent (h : Absent (Entries.get? config key)) :
    readSeconds config key fallback = .ok fallback := by
  rw [readSeconds, part_of_absent h]

theorem readSeconds_of_num {n : Number} (h : Entries.get? config key = some (.num n))
    (hspan : IsSpan n.toFloat) : readSeconds config key fallback = .ok n.toFloat := by
  rw [readSeconds, part_of_some h]
  exact if_pos (isDuration_iff.mpr hspan)

theorem readSeconds_of_not (h : ¬IsWait (Entries.get? config key)) :
    readSeconds config key fallback = .error (.seconds key) := by
  obtain ⟨habsent, hnum⟩ := not_or.mp h
  obtain ⟨v, hfound, hv, hnull⟩ := part_of_not_absent habsent
  rw [readSeconds, hv]
  cases v with
  | null => exact absurd rfl hnull
  | num n => exact if_neg fun hspan => hnum ⟨n, hfound, isDuration_iff.mp hspan⟩
  | bool | str | arr | obj => rfl

theorem readTimeout_of_ok {x : Float} (h : readSeconds config "timeout" defaultTimeout = .ok x) :
    readTimeout config = if x == 0.0 then .error .noTimeout else .ok x := by
  rw [readTimeout, h]
  cases hzero : x == 0.0 <;> simp [bind, Except.bind, hzero] <;> rfl

theorem readTimeout_of_error (h : readSeconds config "timeout" defaultTimeout = .error e) :
    readTimeout config = .error e := by
  rw [readTimeout, h]
  rfl

theorem readRetries_of_absent (h : Absent (Entries.get? config "retries")) :
    readRetries config = .ok defaultRetries := by
  rw [readRetries, part_of_absent h]

theorem readRetries_of_whole {k : Nat}
    (h : Entries.get? config "retries" = some (.num (.whole k))) (hk : k < 2 ^ 32) :
    readRetries config = .ok k := by
  rw [readRetries, part_of_some h]
  simp only [Number.toNat?, Int.natCast_nonneg, if_true, Int.toNat_natCast]
  exact if_pos hk

theorem readRetries_of_not (h : ¬Part.retries.Accepts (Entries.get? config "retries")) :
    readRetries config = .error .retries := by
  obtain ⟨habsent, hwhole⟩ := not_or.mp h
  obtain ⟨v, hfound, hv, hnull⟩ := part_of_not_absent habsent
  rw [readRetries, hv]
  cases v with
  | null => exact absurd rfl hnull
  | bool | str | arr | obj => rfl
  | num n =>
      cases n with
      | double x => rfl
      | whole n =>
          by_cases hn : 0 ≤ n
          · obtain ⟨k, rfl⟩ := Int.eq_ofNat_of_zero_le hn
            have hlarge : ¬k < 2 ^ 32 := fun hk => hwhole ⟨k, hfound, hk⟩
            simp only [Number.toNat?, Int.natCast_nonneg, if_true, Int.toNat_natCast]
            exact if_neg hlarge
          · simp only [Number.toNat?, if_neg hn]

theorem readRules_of_absent (h : Absent (Entries.get? config "rules")) :
    readRules config = .ok [] := by
  rw [readRules, part_of_absent h]

theorem readRules_of_arr {items : List Json} (h : Entries.get? config "rules" = some (.arr items)) :
    readRules config = readRulesFrom 0 items := by
  rw [readRules, part_of_some h]

theorem readRules_of_not (habsent : ¬Absent (Entries.get? config "rules"))
    (h : ∀ items, Entries.get? config "rules" ≠ some (.arr items)) :
    readRules config = .error .notList := by
  obtain ⟨v, hfound, hv, hnull⟩ := part_of_not_absent habsent
  rw [readRules, hv]
  cases v with
  | null => exact absurd rfl hnull
  | arr items => exact absurd hfound (h items)
  | bool | num | str | obj => rfl

-- ### Verdicts

def refusal? {ε α : Type} : Except ε α → Option ε
  | .ok _ => none
  | .error e => some e

-- How the reading of a part fails.
def Part.refusal? (config : Config) : Part → Option RuleSetError
  | .url => RuleSet.refusal? (readUrl config)
  | .headers => RuleSet.refusal? (readHeaders config)
  | .delay => RuleSet.refusal? (readSeconds config "delay" defaultDelay)
  | .timeout => RuleSet.refusal? (readTimeout config)
  | .retries => RuleSet.refusal? (readRetries config)
  | .rules => RuleSet.refusal? (readRules config)

theorem Part.refusal?_of_accepts {p : Part} (h : p.Accepts (p.found config)) :
    p.refusal? config = none := by
  cases p with
  | url =>
      obtain ⟨text, address, hfound, hsome, hparse⟩ := h
      rw [Part.refusal?, readUrl_of_text hfound hsome, hparse]
      rfl
  | headers =>
      rcases h with h | ⟨entries, hfound⟩
      · rw [Part.refusal?, readHeaders_of_absent h]
        rfl
      · rw [Part.refusal?, readHeaders_of_obj hfound]
        rfl
  | delay =>
      rcases h with h | ⟨n, hfound, hspan⟩
      · have hread : readSeconds config "delay" defaultDelay = .ok _ := readSeconds_of_absent h
        rw [Part.refusal?, hread]
        rfl
      · have hread : readSeconds config "delay" defaultDelay = .ok _ :=
          readSeconds_of_num hfound hspan
        rw [Part.refusal?, hread]
        rfl
  | timeout =>
      obtain ⟨h | ⟨n, hfound, hspan⟩, hzero⟩ := h
      · rw [Part.refusal?, readTimeout_of_ok (readSeconds_of_absent h), if_neg (by decide)]
        rfl
      · have hpositive : ¬(n.toFloat == 0.0) = true := fun h => by
          obtain ⟨v, hv, -⟩ := hspan
          exact hzero n hfound ((Decimal.beq_zero_iff hv).mp h ▸ hv)
        rw [Part.refusal?, readTimeout_of_ok (readSeconds_of_num hfound hspan), if_neg hpositive]
        rfl
  | retries =>
      rcases h with h | ⟨k, hfound, hk⟩
      · rw [Part.refusal?, readRetries_of_absent h]
        rfl
      · rw [Part.refusal?, readRetries_of_whole hfound hk]
        rfl
  | rules =>
      rcases h with h | ⟨items, hfound, hitems⟩
      · rw [Part.refusal?, readRules_of_absent h]
        rfl
      · obtain ⟨rules, hrules⟩ := forall_isRule_iff.mp hitems
        rw [Part.refusal?, readRules_of_arr hfound, readRulesFrom_eq_ok_iff.mpr hrules]
        rfl

theorem Part.refusal?_of_refuses {p : Part} (h : p.Refuses (p.found config) e) :
    p.refusal? config = some e := by
  rw [Part.found] at h
  generalize hfound : Entries.get? config p.key = found at h
  cases h with
  | noUrl h =>
      rw [Part.refusal?, readUrl_of_blank fun text htext => h text (hfound.symm.trans htext)]
      rfl
  | badUrl h herror =>
      rw [Part.refusal?, readUrl_of_text hfound h, herror]
      rfl
  | headers h =>
      rw [Part.refusal?, readHeaders_of_not (hfound ▸ h)]
      rfl
  | delay h =>
      rw [Part.refusal?, readSeconds_of_not (hfound ▸ h)]
      rfl
  | timeout h =>
      rw [Part.refusal?, readTimeout_of_error (readSeconds_of_not (hfound ▸ h))]
      rfl
  | noTimeout h =>
      have hread : readSeconds config "timeout" defaultTimeout = .ok _ :=
        readSeconds_of_num hfound ⟨0, h, by norm_num⟩
      rw [Part.refusal?, readTimeout_of_ok hread, if_pos ((Decimal.beq_zero_iff h).mpr rfl)]
      rfl
  | retries h =>
      rw [Part.refusal?, readRetries_of_not (hfound ▸ h)]
      rfl
  | notList h hlist =>
      rw [Part.refusal?, readRules_of_not (hfound ▸ h) (hfound ▸ hlist)]
      rfl
  | rule before after h hfault =>
      rw [Part.refusal?, readRules_of_arr hfound,
        readRulesFrom_eq_error_iff.mpr ⟨before, _, after, _, rfl, h, hfault, rfl⟩, Nat.zero_add]
      rfl

theorem Part.accepts_or_refuses (p : Part) (found : Option Json) :
    p.Accepts found ∨ ∃ e, p.Refuses found e := by
  by_cases haccepts : p.Accepts found
  · exact .inl haccepts
  refine .inr ?_
  cases p with
  | url =>
      by_cases htext : ∃ text, found = some (.str text) ∧ isBlankText text.toList = false
      · obtain ⟨text, rfl, hsome⟩ := htext
        cases hparse : Url.parse (trimString text) with
        | ok address => exact absurd ⟨text, address, rfl, hsome, hparse⟩ haccepts
        | error e => exact ⟨_, .badUrl hsome hparse⟩
      · exact ⟨_, .noUrl fun text h => Bool.not_eq_false _ ▸ fun hsome => htext ⟨text, h, hsome⟩⟩
  | headers => exact ⟨_, .headers haccepts⟩
  | delay => exact ⟨_, .delay haccepts⟩
  | timeout =>
      by_cases hwait : IsWait found
      · obtain ⟨n, hn⟩ := not_forall.mp fun h => haccepts ⟨hwait, h⟩
        obtain ⟨rfl, hzero⟩ := Classical.not_imp.mp hn
        exact ⟨_, .noTimeout (not_not.mp hzero)⟩
      · exact ⟨_, .timeout hwait⟩
  | retries => exact ⟨_, .retries haccepts⟩
  | rules =>
      obtain ⟨habsent, harr⟩ := not_or.mp haccepts
      by_cases hitems : ∃ items, found = some (.arr items)
      · obtain ⟨items, rfl⟩ := hitems
        cases hread : readRulesFrom 0 items with
        | ok rules =>
            have hitems := forall_isRule_iff.mpr ⟨rules, readRulesFrom_eq_ok_iff.mp hread⟩
            exact absurd ⟨items, rfl, hitems⟩ harr
        | error e =>
            obtain ⟨before, v, after, fault, rfl, hbefore, hfault, rfl⟩ :=
              readRulesFrom_eq_error_iff.mp hread
            exact ⟨_, .rule before after hbefore hfault⟩
      · exact ⟨_, .notList habsent fun items h => hitems ⟨items, h⟩⟩

theorem Part.refusal?_eq_none_iff {p : Part} :
    p.refusal? config = none ↔ p.Accepts (p.found config) := by
  refine ⟨fun h => ?_, Part.refusal?_of_accepts⟩
  rcases p.accepts_or_refuses (p.found config) with haccepts | ⟨e, hrefuses⟩
  · exact haccepts
  · cases h.symm.trans (Part.refusal?_of_refuses hrefuses)

theorem Part.refusal?_eq_some_iff {p : Part} :
    p.refusal? config = some e ↔ p.Refuses (p.found config) e := by
  refine ⟨fun h => ?_, Part.refusal?_of_refuses⟩
  rcases p.accepts_or_refuses (p.found config) with haccepts | ⟨e', hrefuses⟩
  · cases h.symm.trans (Part.refusal?_of_accepts haccepts)
  · cases h.symm.trans (Part.refusal?_of_refuses hrefuses)
    exact hrefuses

-- The parts are read one after the other.
theorem refusal?_ofConfig (config : Config) :
    refusal? (ofConfig config) = Part.inOrder.findSome? (Part.refusal? config) := by
  simp only [ofConfig, Part.inOrder, List.findSome?, Part.refusal?]
  cases readUrl config with
  | error e => rfl
  | ok url =>
  cases readHeaders config with
  | error e => rfl
  | ok headers =>
  cases readSeconds config "delay" defaultDelay with
  | error e => rfl
  | ok delay =>
  cases readTimeout config with
  | error e => rfl
  | ok timeout =>
  cases readRetries config with
  | error e => rfl
  | ok retries => cases readRules config <;> rfl

theorem exists_ofConfig_iff :
    (∃ s, ofConfig config = .ok s) ↔ ∀ p : Part, p.Accepts (p.found config) := by
  have hnone : (∃ s, ofConfig config = .ok s) ↔ refusal? (ofConfig config) = none := by
    cases ofConfig config <;> simp [refusal?]
  rw [hnone, refusal?_ofConfig, List.findSome?_eq_none_iff]
  simp only [Part.refusal?_eq_none_iff]
  exact ⟨fun h p => h p (by cases p <;> decide), fun h p _ => h p⟩

theorem ofConfig_eq_error_iff : ofConfig config = .error e ↔
    ∃ before p after, Part.inOrder = before ++ p :: after ∧
      (∀ q ∈ before, q.Accepts (q.found config)) ∧ p.Refuses (p.found config) e := by
  have hsome : ofConfig config = .error e ↔ refusal? (ofConfig config) = some e := by
    cases ofConfig config <;> simp [refusal?]
  rw [hsome, refusal?_ofConfig, List.findSome?_eq_some_iff]
  simp only [Part.refusal?_eq_none_iff, Part.refusal?_eq_some_iff]
  exact ⟨fun ⟨before, p, after, hparts, hp, hbefore⟩ => ⟨before, p, after, hparts, hbefore, hp⟩,
    fun ⟨before, p, after, hparts, hbefore, hp⟩ => ⟨before, p, after, hparts, hp, hbefore⟩⟩

-- ### What is read

-- A part that may be left out gives what its value reads as, and something else without one.
inductive Gives {α : Type} (fallback : α) (Reads : Json → α → Prop) : Option Json → α → Prop
  | absent {found : Option Json} (h : Absent found) : Gives fallback Reads found fallback
  | present {v : Json} {x : α} (h : Reads v x) : Gives fallback Reads (some v) x

-- The entries of an object, sorted by name; what is no text is written as JSON.
def ReadsHeaders (v : Json) (headers : List (String × String)) : Prop :=
  ∃ entries, v = .obj entries ∧ headers.Perm (entries.map fun e => (e.1, headerText e.2)) ∧
    headers.Pairwise fun a b => a.1 ≤ b.1

def ReadsSeconds (v : Json) (x : Float) : Prop := ∃ n, v = .num n ∧ x = n.toFloat

def ReadsRetries (v : Json) (k : Nat) : Prop := v = .num (.whole k)

-- The elements of a list in their order, each rule made of one element.
def ReadsRules (v : Json) (rules : List Rule) : Prop :=
  ∃ items, v = .arr items ∧ List.Forall₂ MakesRule items rules

structure Reflects (config : Config) (s : RuleSet) : Prop where
  url : ∃ text, Part.url.found config = some (.str text) ∧ s.url = trimString text
  headers : Gives [] ReadsHeaders (Part.headers.found config) s.headers
  delay : Gives defaultDelay ReadsSeconds (Part.delay.found config) s.delay
  timeout : Gives defaultTimeout ReadsSeconds (Part.timeout.found config) s.timeout
  retries : Gives defaultRetries ReadsRetries (Part.retries.found config) s.retries
  rules : Gives [] ReadsRules (Part.rules.found config) s.rules

theorem gives_seconds {x : Float} (haccepts : IsWait (Entries.get? config key))
    (h : readSeconds config key fallback = .ok x) :
    Gives fallback ReadsSeconds (Entries.get? config key) x := by
  rcases haccepts with habsent | ⟨n, hfound, hspan⟩
  · cases (readSeconds_of_absent habsent).symm.trans h
    exact .absent habsent
  · cases (readSeconds_of_num hfound hspan).symm.trans h
    rw [hfound]
    exact .present ⟨n, rfl, rfl⟩

theorem readSeconds_of_readTimeout {x : Float} (h : readTimeout config = .ok x) :
    readSeconds config "timeout" defaultTimeout = .ok x := by
  cases hread : readSeconds config "timeout" defaultTimeout with
  | error e => cases (readTimeout_of_error hread).symm.trans h
  | ok y =>
      rw [readTimeout_of_ok hread] at h
      split at h
      · cases h
      · exact congrArg Except.ok (Except.ok.inj h)

theorem reflects_of_ok (h : ofConfig config = .ok s) : Reflects config s := by
  have haccepts := exists_ofConfig_iff.mp ⟨s, h⟩
  obtain ⟨hurl, hheaders, hdelay, htimeout, hretries, hrules⟩ := ofConfig_parts h
  constructor
  case url =>
    obtain ⟨text, address, hfound, hsome, hparse⟩ := haccepts .url
    rw [readUrl_of_text hfound hsome, hparse] at hurl
    exact ⟨text, hfound, (Except.ok.inj hurl).symm⟩
  case headers =>
    rcases haccepts .headers with habsent | ⟨entries, hfound⟩
    · rw [← Except.ok.inj ((readHeaders_of_absent habsent).symm.trans hheaders)]
      exact .absent habsent
    · rw [← Except.ok.inj ((readHeaders_of_obj hfound).symm.trans hheaders), hfound]
      exact .present ⟨entries, rfl, List.mergeSort_perm _ _, mergeSort_sorted _⟩
  case delay => exact gives_seconds (haccepts .delay) hdelay
  case timeout =>
    exact gives_seconds (haccepts .timeout).1 (readSeconds_of_readTimeout htimeout)
  case retries =>
    rcases haccepts .retries with habsent | ⟨k, hfound, hk⟩
    · rw [← Except.ok.inj ((readRetries_of_absent habsent).symm.trans hretries)]
      exact .absent habsent
    · rw [← Except.ok.inj ((readRetries_of_whole hfound hk).symm.trans hretries), hfound]
      exact .present rfl
  case rules =>
    rcases haccepts .rules with habsent | ⟨items, hfound, -⟩
    · rw [← Except.ok.inj ((readRules_of_absent habsent).symm.trans hrules)]
      exact .absent habsent
    · rw [readRules_of_arr hfound, readRulesFrom_eq_ok_iff] at hrules
      rw [hfound]
      exact .present ⟨items, rfl, hrules⟩

-- ### Locality

-- Two rule sets that have one part in common.
def Part.Agrees (s s' : RuleSet) : Part → Prop
  | .url => s.url = s'.url
  | .headers => s.headers = s'.headers
  | .delay => s.delay = s'.delay
  | .timeout => s.timeout = s'.timeout
  | .retries => s.retries = s'.retries
  | .rules => s.rules = s'.rules

theorem part_congr (h : Entries.get? config key = Entries.get? other key) :
    part config key = part other key := by
  rw [part, part, h]

theorem readUrl_congr (h : part config "url" = part other "url") :
    readUrl config = readUrl other := by
  rw [readUrl, h, readUrl]

theorem readHeaders_congr (h : part config "headers" = part other "headers") :
    readHeaders config = readHeaders other := by
  rw [readHeaders, h, readHeaders]

theorem readSeconds_congr (h : part config key = part other key) :
    readSeconds config key fallback = readSeconds other key fallback := by
  rw [readSeconds, h, readSeconds]

theorem readTimeout_congr (h : part config "timeout" = part other "timeout") :
    readTimeout config = readTimeout other := by
  rw [readTimeout, readSeconds_congr h, readTimeout]

theorem readRetries_congr (h : part config "retries" = part other "retries") :
    readRetries config = readRetries other := by
  rw [readRetries, h, readRetries]

theorem readRules_congr (h : part config "rules" = part other "rules") :
    readRules config = readRules other := by
  rw [readRules, h, readRules]

theorem agrees_of_found {p : Part} (h : p.found config = p.found other)
    (hs : ofConfig config = .ok s) (hs' : ofConfig other = .ok s') : p.Agrees s s' := by
  replace h := part_congr h
  obtain ⟨hurl, hheaders, hdelay, htimeout, hretries, hrules⟩ := ofConfig_parts hs
  obtain ⟨hurl', hheaders', hdelay', htimeout', hretries', hrules'⟩ := ofConfig_parts hs'
  cases p with
  | url => exact Except.ok.inj (hurl.symm.trans ((readUrl_congr h).trans hurl'))
  | headers => exact Except.ok.inj (hheaders.symm.trans ((readHeaders_congr h).trans hheaders'))
  | delay => exact Except.ok.inj (hdelay.symm.trans ((readSeconds_congr h).trans hdelay'))
  | timeout => exact Except.ok.inj (htimeout.symm.trans ((readTimeout_congr h).trans htimeout'))
  | retries => exact Except.ok.inj (hretries.symm.trans ((readRetries_congr h).trans hretries'))
  | rules => exact Except.ok.inj (hrules.symm.trans ((readRules_congr h).trans hrules'))

-- Keys that belong to no part make no difference.
theorem ofConfig_congr (h : ∀ p : Part, p.found config = p.found other) :
    ofConfig config = ofConfig other := by
  have hdelay : part config "delay" = part other "delay" := part_congr (h .delay)
  rw [ofConfig, readUrl_congr (part_congr (h .url)), readHeaders_congr (part_congr (h .headers)),
    readSeconds_congr hdelay, readTimeout_congr (part_congr (h .timeout)),
    readRetries_congr (part_congr (h .retries)), readRules_congr (part_congr (h .rules)), ofConfig]

-- What is made of one element does not depend on the others.
theorem getElem?_of_makes {items : List Json} {rules : List Rule}
    (h : List.Forall₂ MakesRule items rules) (i : Nat) :
    rules[i]? = items[i]?.bind fun v => (readRule v).toOption := by
  induction h generalizing i with
  | nil => rfl
  | cons hfirst _ ih =>
      cases i with
      | zero => simp [readRule_eq_ok_iff.mpr hfirst, Except.toOption]
      | succ i => simpa using ih i

theorem rules_getElem? {items : List Json} (h : ofConfig config = .ok s)
    (hitems : Part.rules.found config = some (.arr items)) (i : Nat) :
    s.rules[i]? = items[i]?.bind fun v => (readRule v).toOption := by
  obtain ⟨-, -, -, -, -, hrules⟩ := ofConfig_parts h
  rw [readRules_of_arr hitems] at hrules
  exact getElem?_of_makes (readRulesFrom_eq_ok_iff.mp hrules) i

-- A rule set is read exactly if each part of its configuration is acceptable by itself, and then
-- each of its parts is what the value at one key says, each rule what one element says. Otherwise
-- the first part that is not acceptable tells how it is refused.
theorem reads_by_parts :
    (∀ config, (∃ s, ofConfig config = .ok s) ↔ ∀ p : Part, p.Accepts (p.found config)) ∧
    (∀ config e, ofConfig config = .error e ↔
      ∃ before p after, Part.inOrder = before ++ p :: after ∧
        (∀ q ∈ before, q.Accepts (q.found config)) ∧ p.Refuses (p.found config) e) ∧
    (∀ config s, ofConfig config = .ok s → Reflects config s) ∧
    (∀ config other s s', ofConfig config = .ok s → ofConfig other = .ok s' →
      (∀ p : Part, p.found config = p.found other → p.Agrees s s') ∧
      ∀ (items items' : List Json) (i : Nat), Part.rules.found config = some (.arr items) →
        Part.rules.found other = some (.arr items') → items[i]? = items'[i]? →
        s.rules[i]? = s'.rules[i]?) ∧
    ∀ config other, (∀ p : Part, p.found config = p.found other) →
      ofConfig config = ofConfig other := by
  refine ⟨fun config => exists_ofConfig_iff, fun config e => ofConfig_eq_error_iff,
    fun config s => reflects_of_ok, fun config other s s' hs hs' => ⟨fun p h => ?_, ?_⟩,
    fun config other => ofConfig_congr⟩
  · exact agrees_of_found h hs hs'
  · intro items items' i hitems hitems' hi
    rw [rules_getElem? hs hitems, rules_getElem? hs' hitems', hi]

end Spiderworks.RuleSet
