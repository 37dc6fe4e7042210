import Mathlib.Data.List.Nodup
import Spiderworks.Engine.Registry

namespace Spiderworks.Registry

def Sole (r : Registry) : Prop := (r.live.map (·.spider)).Nodup

variable {r r' : Registry} {a b : Int} {x : String} {n m : Nat} {g g' : Registration}

theorem Sole.eq_of_spider (h : r.Sole) (hg : g ∈ r.live) (hg' : g' ∈ r.live)
    (he : g.spider = g'.spider) : g = g' :=
  List.inj_on_of_nodup_map h hg hg' he

-- ### Looking a spider up

theorem mem_of_find? (h : r.find? a = some g) : g ∈ r.live ∧ g.spider = a :=
  ⟨List.mem_of_find?_eq_some h, by simpa using List.find?_some h⟩

theorem find?_eq_some_iff (h : r.Sole) : r.find? a = some g ↔ g ∈ r.live ∧ g.spider = a := by
  constructor
  · exact mem_of_find?
  · rintro ⟨hg, rfl⟩
    cases hf : r.find? g.spider with
    | none => simp [find?, List.find?_eq_none] at hf; exact absurd rfl (hf g hg)
    | some g' =>
        obtain ⟨hg', he⟩ := mem_of_find? hf
        rw [h.eq_of_spider hg' hg he]

theorem find?_eq_none_iff : r.find? a = none ↔ ∀ g ∈ r.live, g.spider ≠ a := by
  simp [find?, List.find?_eq_none]

theorem contains_eq_false_iff : r.contains a = false ↔ ∀ g ∈ r.live, g.spider ≠ a := by
  rw [contains, Option.isSome_eq_false_iff, Option.isNone_iff_eq_none, find?_eq_none_iff]

theorem own?_eq_some_iff (h : r.Sole) :
    r.own? a x = some g ↔ g ∈ r.live ∧ g.spider = a ∧ g.execution = x := by
  simp [own?, Option.filter_eq_some_iff, find?_eq_some_iff h, and_assoc]

theorem own?_eq_none_iff (h : r.Sole) :
    r.own? a x = none ↔ ∀ g ∈ r.live, g.spider = a → g.execution ≠ x := by
  rw [Option.eq_none_iff_forall_ne_some]
  simp only [ne_eq, own?_eq_some_iff h, not_and]

-- ### Operations

theorem register_eq_some_iff :
    r.register a x = some (n, r') ↔ (∀ g ∈ r.live, g.spider ≠ a) ∧ n = r.signals.length ∧
      r' = ⟨r.live ++ [⟨a, x, .running, none, n⟩], r.signals ++ [.fresh]⟩ := by
  unfold register
  by_cases hc : r.contains a = true
  · rw [if_pos hc]
    have : ¬∀ g ∈ r.live, g.spider ≠ a := by simp [← contains_eq_false_iff, hc]
    simp [this]
  · rw [if_neg hc]
    have : ∀ g ∈ r.live, g.spider ≠ a := contains_eq_false_iff.mp (by simpa using hc)
    constructor
    · rintro h; cases h; exact ⟨this, rfl, rfl⟩
    · rintro ⟨-, rfl, rfl⟩; rfl

theorem mem_change {f : Registration → Registration} :
    g ∈ (r.change a f).live ↔ ∃ e ∈ r.live, (if e.spider = a then f e else e) = g := by
  simp [change]

theorem beginStop_eq_some {t : StopTicket} (h : r.beginStop a = some (t, r')) :
    ∃ g ∈ r.live, g.spider = a ∧ g.phase ≠ .finishing ∧
      t = ⟨g.execution, g.number, g.phase == .running⟩ ∧
      r' = r.change a fun e => { e with phase := .stopping } := by
  unfold beginStop at h
  split at h
  · rename_i g hf
    obtain ⟨hg, hs⟩ := mem_of_find? hf
    split at h
    · rename_i hp
      cases h
      exact ⟨g, hg, hs, by simpa [Phase.acceptsStop] using hp, rfl, rfl⟩
    · cases h
  · cases h

theorem beginFinish_eq_some (hr : r.Sole) (h : r.beginFinish a x = some r') :
    ∃ g ∈ r.live, g.spider = a ∧ g.execution = x ∧ g.phase = .running ∧
      r' = r.change a fun e => { e with phase := .finishing } := by
  unfold beginFinish at h
  split at h
  · rename_i g hf
    obtain ⟨hg, hs, hx⟩ := (own?_eq_some_iff hr).mp hf
    split at h
    · rename_i hp
      cases h
      exact ⟨g, hg, hs, hx, hp, rfl⟩
    · cases h
  · cases h

theorem beginFinish_eq_none (hr : r.Sole) (h : r.beginFinish a x = none) (hg : g ∈ r.live)
    (hs : g.spider = a) (hx : g.execution = x) : g.phase ≠ .running := by
  intro hp
  have hf := (own?_eq_some_iff hr).mpr ⟨hg, hs, hx⟩
  simp [beginFinish, hf, hp] at h

theorem remove_eq_some (hr : r.Sole) (h : r.remove a x = some r') :
    ∃ g ∈ r.live, g.spider = a ∧ g.execution = x ∧
      r' = release { r with live := r.live.filter (·.spider != a) } g.number := by
  obtain ⟨g, hf, rfl⟩ := Option.map_eq_some_iff.mp h
  obtain ⟨hg, hs, hx⟩ := (own?_eq_some_iff hr).mp hf
  exact ⟨g, hg, hs, hx, rfl⟩

theorem remove_eq_none (hr : r.Sole) (h : r.remove a x = none) (hg : g ∈ r.live)
    (hs : g.spider = a) : g.execution ≠ x :=
  (own?_eq_none_iff hr).mp (Option.map_eq_none_iff.mp h) g hg hs

-- ### Signals

-- Only the signals with the number change.
theorem signalsOf_signal (r : Registry) (n m : Nat) (f : Signals → Signals) :
    (r.signal n f).signalsOf m = r.signalsOf m ∨
      m = n ∧ (r.signal n f).signalsOf m = f (r.signalsOf m) := by
  unfold signalsOf signal
  simp only [List.getElem?_modify]
  by_cases hm : n = m
  · subst hm
    cases hs : r.signals[n]? with
    | none => simp
    | some v => simp
  · simp [hm]

theorem signalsOf_register {live : List Registration} (r : Registry) (m : Nat) :
    signalsOf ⟨live, r.signals ++ [.fresh]⟩ m = r.signalsOf m := by
  unfold signalsOf
  by_cases hm : m < r.signals.length
  · simp [List.getElem?_append_left hm]
  · have hn : r.signals[m]? = none := List.getElem?_eq_none (by omega)
    rw [List.getElem?_append_right (by omega), hn]
    cases m - r.signals.length <;> simp

end Spiderworks.Registry
