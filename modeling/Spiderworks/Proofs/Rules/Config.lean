import Spiderworks.Proofs.Decimal.Value
import Spiderworks.Proofs.Json.Entries
import Spiderworks.Proofs.Json.Objects
import Spiderworks.Rules.RuleSet
import Spiderworks.Spider.Definition

namespace Spiderworks

variable {key : String}

-- ### Configurations

theorem Json.settled_of_mem {es : List (String × Json)} {e : String × Json}
    (h : e ∈ settledEntries es) : ∃ v, settled v = e.2 := by
  induction es with
  | nil => cases h
  | cons f es ih =>
      obtain ⟨k, v⟩ := f
      rcases List.mem_cons.mp h with rfl | h
      · exact ⟨v, rfl⟩
      · exact ih h

theorem Json.nodup_of_settled {v : Json} {es : List (String × Json)} (h : settled v = .obj es) :
    (es.map (·.1)).Nodup := by
  obtain ⟨raw, rfl⟩ := Json.settled_eq_obj h
  cases h
  exact Entries.nodup_ofList _

theorem Json.exists_settled_of_read? {text : String} {v : Json} (h : read? text = some v) :
    ∃ raw, settled raw = v := by
  obtain ⟨raw, -, -, -, hraw⟩ := exists_of_readChars (read?_eq_some_iff.mp h)
  exact ⟨raw, hraw⟩

-- In a configuration that is read from text every key of an object stands once.
theorem Definition.nodup_of_configOf {text : String} {es : List (String × Json)}
    (h : RuleSet.part (configOf text) key = .obj es) : (es.map (·.1)).Nodup := by
  obtain ⟨e, he, hvalue⟩ : ∃ e ∈ configOf text, e.2 = .obj es := by
    rw [RuleSet.part, Entries.get?] at h
    cases hfind : (configOf text).find? (·.1 == key) with
    | none =>
        rw [hfind] at h
        cases h
    | some e =>
        rw [hfind] at h
        exact ⟨e, List.mem_of_find?_eq_some hfind, h⟩
  rw [configOf] at he
  split at he
  · rename_i entries hread
    obtain ⟨v, hv⟩ := Json.exists_settled_of_read? hread
    obtain ⟨raw, rfl⟩ := Json.settled_eq_obj hv
    cases hv
    obtain ⟨f, hf, hfe⟩ := Entries.exists_of_mem_ofList he
    obtain ⟨w, hw⟩ := Json.settled_of_mem hf
    exact Json.nodup_of_settled (hw.trans (hfe.trans hvalue))
  · cases he

namespace RuleSet

variable {config : Config} {s : RuleSet}

theorem readRetries_lt {n : Nat} (h : readRetries config = .ok n) : n < Nat.pow 2 32 := by
  unfold readRetries at h
  split at h
  · cases h
    decide
  · split at h
    · split at h
      · rename_i hn
        cases h
        exact hn
      · cases h
    · cases h
  · cases h

theorem mergeSort_sorted (texts : List (String × String)) :
    (texts.mergeSort fun a b => a.1 ≤ b.1).Pairwise fun a b => a.1 ≤ b.1 := by
  have hsorted : (texts.mergeSort fun a b => a.1 ≤ b.1).Pairwise fun a b =>
      decide (a.1 ≤ b.1) = true := by
    refine List.pairwise_mergeSort (fun a b c hab hbc => ?_) (fun a b => ?_) texts
    · exact decide_eq_true (String.le_trans (of_decide_eq_true hab) (of_decide_eq_true hbc))
    · rcases String.le_total a.1 b.1 with hab | hba
      · rw [decide_eq_true hab, Bool.true_or]
      · rw [decide_eq_true hba, Bool.or_true]
  exact hsorted.imp of_decide_eq_true

theorem mergeSort_pairwise {texts : List (String × String)} (h : (texts.map (·.1)).Nodup) :
    (texts.mergeSort fun a b => a.1 ≤ b.1).Pairwise fun a b => a.1 < b.1 := by
  have hdistinct : (texts.mergeSort fun a b => a.1 ≤ b.1).Pairwise fun a b => a.1 ≠ b.1 := by
    refine List.pairwise_map.mp ?_
    exact ((List.mergeSort_perm texts _).map (·.1)).nodup_iff.mpr h
  refine ((mergeSort_sorted texts).and hdistinct).imp fun hab => String.not_le.mp fun hba => ?_
  exact hab.2 (String.le_antisymm hab.1 hba)

-- A number of seconds that is a span of time.
def IsSpan (x : Float) : Prop := ∃ v, Decimal.value? x = some v ∧ 0 ≤ v ∧ v < 2 ^ 64

theorem isDuration_iff {x : Float} : isDuration x = true ↔ IsSpan x := by
  rw [isDuration, Bool.and_eq_true, decide_eq_true_eq, decide_eq_true_eq]
  constructor
  · rintro ⟨hzero, hlt⟩
    obtain ⟨v, hv⟩ := Decimal.value?_of_bounds hzero hlt
    exact ⟨v, hv, (Decimal.zero_le_iff hv).mp hzero, (Decimal.lt_two_pow_iff hv).mp hlt⟩
  · rintro ⟨v, hv, hzero, hlt⟩
    exact ⟨(Decimal.zero_le_iff hv).mpr hzero, (Decimal.lt_two_pow_iff hv).mpr hlt⟩

-- Sorted by name, and each name once if the names of the configuration are such.
theorem readHeaders_pairwise {headers : List (String × String)}
    (h : readHeaders config = .ok headers)
    (once : ∀ entries, part config "headers" = .obj entries → (entries.map (·.1)).Nodup) :
    headers.Pairwise fun a b => a.1 < b.1 := by
  unfold readHeaders at h
  split at h
  · cases h
    exact List.Pairwise.nil
  · rename_i entries hentries
    cases h
    refine mergeSort_pairwise ?_
    rw [List.map_map]
    exact once entries hentries
  · cases h

theorem readSeconds_isDuration {fallback x : Float} (hfallback : isDuration fallback = true)
    (h : readSeconds config key fallback = .ok x) : isDuration x = true := by
  unfold readSeconds at h
  split at h
  · cases h
    exact hfallback
  · split at h
    · rename_i hx
      cases h
      exact hx
    · cases h
  · cases h

-- Every part is read from the configuration by itself.
theorem ofConfig_parts (h : ofConfig config = .ok s) :
    readUrl config = .ok s.url ∧ readHeaders config = .ok s.headers ∧
      readSeconds config "delay" defaultDelay = .ok s.delay ∧
      readTimeout config = .ok s.timeout ∧ readRetries config = .ok s.retries ∧
      readRules config = .ok s.rules := by
  obtain ⟨url, hurl, h⟩ := bind_eq_ok_iff.mp h
  obtain ⟨headers, hheaders, h⟩ := bind_eq_ok_iff.mp h
  obtain ⟨delay, hdelay, h⟩ := bind_eq_ok_iff.mp h
  obtain ⟨timeout, htimeout, h⟩ := bind_eq_ok_iff.mp h
  obtain ⟨retries, hretries, h⟩ := bind_eq_ok_iff.mp h
  obtain ⟨rules, hrules, h⟩ := bind_eq_ok_iff.mp h
  cases h
  exact ⟨hurl, hheaders, hdelay, htimeout, hretries, hrules⟩

theorem ofConfig_eq_ok (h : ofConfig config = .ok s) :
    readHeaders config = .ok s.headers ∧ readRetries config = .ok s.retries := by
  obtain ⟨-, hheaders, -, -, hretries, -⟩ := ofConfig_parts h
  exact ⟨hheaders, hretries⟩

theorem isDuration_delay (h : ofConfig config = .ok s) : isDuration s.delay = true := by
  obtain ⟨-, -, hdelay, -⟩ := ofConfig_parts h
  exact readSeconds_isDuration (by decide) hdelay

theorem isDuration_timeout (h : ofConfig config = .ok s) : isDuration s.timeout = true := by
  obtain ⟨-, -, -, htimeout, -⟩ := ofConfig_parts h
  obtain ⟨timeout, hread, htimeout⟩ := bind_eq_ok_iff.mp htimeout
  split at htimeout
  · cases htimeout
  · cases htimeout
    exact readSeconds_isDuration (by decide) hread

end RuleSet

end Spiderworks
