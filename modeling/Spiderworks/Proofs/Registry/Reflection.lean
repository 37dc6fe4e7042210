import Spiderworks.Proofs.Engine.Lawful
import Spiderworks.Proofs.Registry.Lookup

namespace Spiderworks

open History

def History.HasPhase (log : List Event) (x : String) : Phase → Prop
  | .running => ¬Claimed log x ∧ ¬Granted log x
  | .stopping => Granted log x
  | .finishing => Claimed log x

namespace Registry

-- The reasons for the three signals: a granted request, the task of a run, a freed registration.
structure Justified (r : Registry) (log : List Event) : Prop where
  cancel : ∀ n, (r.signalsOf n).cancel = true → ∃ k a t, .granted k a t ∈ log ∧ t.number = n
  finished : ∀ n, (r.signalsOf n).finished = true →
    ∃ i a x, .registered i a x n ∈ log ∧ Recorded log x
  released : ∀ n, (r.signalsOf n).released = true →
    ∃ i a x, .registered i a x n ∈ log ∧ Freed log x

structure Reflects (r : Registry) (log : List Event) : Prop where
  sole : r.Sole
  registered : ∀ g ∈ r.live, ∃ i, .registered i g.spider g.execution g.number ∈ log
  held : ∀ g ∈ r.live, ¬Freed log g.execution
  phase : ∀ g ∈ r.live, HasPhase log g.execution g.phase
  live_or_freed : ∀ i a x n, .registered i a x n ∈ log →
    (∃ g ∈ r.live, g.spider = a ∧ g.execution = x ∧ g.number = n) ∨ Freed log x
  number_lt : ∀ i a x n, .registered i a x n ∈ log → n < r.signals.length
  justified : r.Justified log

variable {r r' : Registry} {log : List Event} {event : Event} {a : Int} {x : String}
  {i j k n : Nat} {g e : Registration} {t : StopTicket}

-- ### Signals

theorem Justified.concat (h : r.Justified log) : r.Justified (log ++ [event]) := by
  constructor
  · intro n hn
    obtain ⟨k, a, t, hm, ht⟩ := h.cancel n hn
    exact ⟨k, a, t, List.mem_append_left _ hm, ht⟩
  · intro n hn
    obtain ⟨i, a, x, hm, hx⟩ := h.finished n hn
    exact ⟨i, a, x, List.mem_append_left _ hm, recorded_concat.mpr (.inl hx)⟩
  · intro n hn
    obtain ⟨i, a, x, hm, hx⟩ := h.released n hn
    exact ⟨i, a, x, List.mem_append_left _ hm, freed_concat.mpr (.inl hx)⟩

theorem Justified.of_signalsOf (h : r.Justified log)
    (same : ∀ n, r'.signalsOf n = r.signalsOf n) : r'.Justified log := by
  constructor
  · simpa only [same] using h.cancel
  · simpa only [same] using h.finished
  · simpa only [same] using h.released

theorem Justified.signal {f : Signals → Signals} (h : r.Justified log)
    (cancel : ∀ v, (f v).cancel = true → v.cancel = true ∨
      ∃ k a t, .granted k a t ∈ log ∧ t.number = n)
    (finished : ∀ v, (f v).finished = true → v.finished = true ∨
      ∃ i a x, .registered i a x n ∈ log ∧ Recorded log x)
    (released : ∀ v, (f v).released = true → v.released = true ∨
      ∃ i a x, .registered i a x n ∈ log ∧ Freed log x) : (r.signal n f).Justified log := by
  constructor
  · intro m hm
    rcases signalsOf_signal r n m f with hs | ⟨rfl, hs⟩
    · exact h.cancel m (hs ▸ hm)
    · exact (cancel _ (hs ▸ hm)).elim (h.cancel m) id
  · intro m hm
    rcases signalsOf_signal r n m f with hs | ⟨rfl, hs⟩
    · exact h.finished m (hs ▸ hm)
    · exact (finished _ (hs ▸ hm)).elim (h.finished m) id
  · intro m hm
    rcases signalsOf_signal r n m f with hs | ⟨rfl, hs⟩
    · exact h.released m (hs ▸ hm)
    · exact (released _ (hs ▸ hm)).elim (h.released m) id

-- ### Steps that add no event, or one that does not concern the registrations

namespace Reflects

theorem empty : Registry.empty.Reflects [] where
  sole := List.nodup_nil
  registered := by simp [Registry.empty]
  held := by simp [Registry.empty]
  phase := by simp [Registry.empty]
  live_or_freed := by simp
  number_lt := by simp
  justified := by constructor <;> simp [Registry.empty, signalsOf, Signals.fresh]

theorem eq_of_execution (h : r.Reflects log) (hl : Lawful log) (hg : g ∈ r.live) (he : e ∈ r.live)
    (hx : g.execution = e.execution) : g = e := by
  obtain ⟨i, hi⟩ := h.registered g hg
  obtain ⟨j, hj⟩ := h.registered e he
  rw [hx] at hi
  exact h.sole.eq_of_spider hg he (hl.registered_unique hi hj).2.1

-- The events that come with a change of the registrations.
def concerns : Event → Bool
  | .registered _ _ _ _ | .granted _ _ _ | .claimed _ _ _ | .freed _ _ _ => true
  | _ => false

theorem concat (h : r.Reflects log) (he : concerns event = false) :
    r.Reflects (log ++ [event]) := by
  have claimed (x : String) : Claimed (log ++ [event]) x ↔ Claimed log x := by
    cases event <;> simp_all [concerns]
  have granted (x : String) : Granted (log ++ [event]) x ↔ Granted log x := by
    cases event <;> simp_all [concerns]
  have freed (x : String) : Freed (log ++ [event]) x ↔ Freed log x := by
    cases event <;> simp_all [concerns]
  have registered (i : Nat) (a : Int) (x : String) (n : Nat) :
      .registered i a x n ∈ log ++ [event] ↔ .registered i a x n ∈ log := by
    cases event <;> simp_all [concerns]
  have phase (x : String) (p : Phase) : HasPhase (log ++ [event]) x p ↔ HasPhase log x p := by
    cases p <;> simp only [HasPhase, claimed, granted]
  refine ⟨h.sole, ?_, ?_, ?_, ?_, ?_, h.justified.concat⟩
  · simpa only [registered] using h.registered
  · simpa only [freed] using h.held
  · simpa only [phase] using h.phase
  · simpa only [registered, freed] using h.live_or_freed
  · simpa only [registered] using h.number_lt

-- The registration of one spider changes in what the history does not tell.
theorem change {f : Registration → Registration} (h : r.Reflects log) (a : Int)
    (hf : ∀ g, (f g).spider = g.spider ∧ (f g).execution = g.execution ∧
      (f g).number = g.number ∧ (f g).phase = g.phase) : (r.change a f).Reflects log := by
  have same (g : Registration) : (if g.spider = a then f g else g).spider = g.spider ∧
      (if g.spider = a then f g else g).execution = g.execution ∧
      (if g.spider = a then f g else g).number = g.number ∧
      (if g.spider = a then f g else g).phase = g.phase := by
    split
    · exact hf g
    · exact ⟨rfl, rfl, rfl, rfl⟩
  refine ⟨?_, ?_, ?_, ?_, ?_, h.number_lt, h.justified.of_signalsOf fun _ => rfl⟩
  · have := h.sole
    simpa only [Sole, Registry.change, List.map_map, Function.comp_def, same] using this
  · intro e he
    obtain ⟨g, hg, rfl⟩ := mem_change.mp he
    simpa only [same] using h.registered g hg
  · intro e he
    obtain ⟨g, hg, rfl⟩ := mem_change.mp he
    simpa only [same] using h.held g hg
  · intro e he
    obtain ⟨g, hg, rfl⟩ := mem_change.mp he
    simpa only [same] using h.phase g hg
  · intro i b x n hm
    rcases h.live_or_freed i b x n hm with ⟨g, hg, hgs⟩ | hf
    · exact .inl ⟨_, mem_change.mpr ⟨g, hg, rfl⟩, by simpa only [same] using hgs⟩
    · exact .inr hf

theorem attach (h : r.Reflects log) (a : Int) (x : String) (pid : Option Nat) :
    (r.attach a x pid).Reflects log := by
  unfold Registry.attach
  split
  · exact h.change a fun g => ⟨rfl, rfl, rfl, rfl⟩
  · exact h

theorem signal {f : Signals → Signals} (h : r.Reflects log)
    (hj : (r.signal n f).Justified log) : (r.signal n f).Reflects log where
  sole := h.sole
  registered := h.registered
  held := h.held
  phase := h.phase
  live_or_freed := h.live_or_freed
  number_lt := by simpa [Registry.signal] using h.number_lt
  justified := hj

theorem cancelled (h : r.Reflects log) (hg : .granted k a t ∈ log) :
    (r.cancel t.number).Reflects log :=
  h.signal (h.justified.signal (fun _ _ => .inr ⟨k, a, t, hg, rfl⟩) (fun _ => .inl) fun _ => .inl)

theorem finish (h : r.Reflects log) (hi : .registered i a x n ∈ log) (hx : Recorded log x) :
    (r.finish n).Reflects log :=
  h.signal (h.justified.signal (fun _ => .inl) (fun _ _ => .inr ⟨i, a, x, hi, hx⟩) fun _ => .inl)

-- ### Steps that add the event of a change

theorem register (h : r.Reflects log) (hr : r.register a x = some (n, r'))
    (hx : ¬Claimed log x ∧ ¬Granted log x ∧ ¬Freed log x) :
    r'.Reflects (log ++ [.registered i a x n]) := by
  obtain ⟨hnone, rfl, rfl⟩ := register_eq_some_iff.mp hr
  have mem {g : Registration} (hg : g ∈ r.live ++ [⟨a, x, .running, none, r.signals.length⟩]) :
      g ∈ r.live ∨ g = ⟨a, x, .running, none, r.signals.length⟩ := by simpa using hg
  refine ⟨?_, ?_, ?_, ?_, ?_, ?_, ?_⟩
  · have hs := h.sole
    simp only [Sole, List.map_append, List.map_cons, List.map_nil] at hs ⊢
    refine List.nodup_append.mpr ⟨hs, by simp, ?_⟩
    rintro b hb c hc rfl
    obtain ⟨g, hg, rfl⟩ := List.mem_map.mp hb
    exact hnone g hg (by simpa using hc)
  · intro g hg
    rcases mem hg with hg | rfl
    · obtain ⟨j, hj⟩ := h.registered g hg
      exact ⟨j, List.mem_append_left _ hj⟩
    · exact ⟨i, by simp⟩
  · intro g hg
    rw [freed_concat]
    rcases mem hg with hg | rfl
    · simpa using h.held g hg
    · simpa using hx.2.2
  · intro g hg
    rcases mem hg with hg | rfl
    · have hp := h.phase g hg
      cases hph : g.phase <;> simpa [HasPhase, hph] using hp
    · simpa [HasPhase] using ⟨hx.1, hx.2.1⟩
  · intro j b y m hm
    simp only [List.mem_append, List.mem_singleton] at hm
    rcases hm with hm | hm
    · rcases h.live_or_freed j b y m hm with ⟨g, hg, hgs⟩ | hf
      · exact .inl ⟨g, List.mem_append_left _ hg, hgs⟩
      · exact .inr (freed_concat.mpr (.inl hf))
    · cases hm
      exact .inl ⟨⟨a, x, .running, none, r.signals.length⟩, by simp⟩
  · intro j b y m hm
    simp only [List.mem_append, List.mem_singleton] at hm
    simp only [List.length_append, List.length_singleton]
    rcases hm with hm | hm
    · exact Nat.lt_succ_of_lt (h.number_lt j b y m hm)
    · cases hm; exact Nat.lt_succ_self _
  · exact h.justified.concat.of_signalsOf (signalsOf_register r)

-- A claim moves the one registration of its execution to another phase.
theorem rephase (h : r.Reflects log) (hl : Lawful log) (hg : g ∈ r.live) (p : Phase)
    (hr : ∀ i b y m, .registered i b y m ≠ event) (hf : ∀ q b y, event ≠ .freed q b y)
    (own : HasPhase (log ++ [event]) g.execution p)
    (others : ∀ y q, y ≠ g.execution → HasPhase log y q → HasPhase (log ++ [event]) y q) :
    (r.change g.spider fun e => { e with phase := p }).Reflects (log ++ [event]) := by
  have freed (y : String) : Freed (log ++ [event]) y ↔ Freed log y := by simp [hf]
  have registered (i : Nat) (b : Int) (y : String) (m : Nat) :
      .registered i b y m ∈ log ++ [event] ↔ .registered i b y m ∈ log := by
    simp [hr i b y m]
  have same (e : Registration) :
      (if e.spider = g.spider then { e with phase := p } else e).spider = e.spider ∧
      (if e.spider = g.spider then { e with phase := p } else e).execution = e.execution ∧
      (if e.spider = g.spider then { e with phase := p } else e).number = e.number := by
    split <;> exact ⟨rfl, rfl, rfl⟩
  refine ⟨?_, ?_, ?_, ?_, ?_, ?_, h.justified.concat.of_signalsOf fun _ => rfl⟩
  · have := h.sole
    simpa only [Sole, Registry.change, List.map_map, Function.comp_def, same] using this
  · intro e' he'
    obtain ⟨e, he, rfl⟩ := mem_change.mp he'
    simpa only [same, registered] using h.registered e he
  · intro e' he'
    obtain ⟨e, he, rfl⟩ := mem_change.mp he'
    simpa only [same, freed] using h.held e he
  · intro e' he'
    obtain ⟨e, he, rfl⟩ := mem_change.mp he'
    by_cases hs : e.spider = g.spider
    · cases h.sole.eq_of_spider he hg hs
      simpa only [if_pos] using own
    · rw [if_neg hs]
      refine others _ _ (fun hx => hs ?_) (h.phase e he)
      rw [h.eq_of_execution hl he hg hx]
  · intro i b y m hm
    rw [registered] at hm
    rw [freed]
    rcases h.live_or_freed i b y m hm with ⟨e, he, hes⟩ | hf
    · exact .inl ⟨_, mem_change.mpr ⟨e, he, rfl⟩, by simpa only [same] using hes⟩
    · exact .inr hf
  · intro i b y m hm
    exact h.number_lt i b y m ((registered i b y m).mp hm)

theorem grant (h : r.Reflects log) (hl : Lawful log) (hr : r.beginStop a = some (t, r')) :
    r'.Reflects (log ++ [.granted k a t]) := by
  obtain ⟨g, hg, rfl, hp, rfl, rfl⟩ := beginStop_eq_some hr
  refine h.rephase hl hg .stopping (by simp) (by simp) ?_ ?_
  · simp [HasPhase]
  · intro y q hy hq
    cases q <;> simpa [HasPhase, Ne.symm hy] using hq

theorem claim (h : r.Reflects log) (hl : Lawful log) (hr : r.beginFinish a x = some r') :
    r'.Reflects (log ++ [.claimed j a x]) := by
  obtain ⟨g, hg, rfl, rfl, hp, rfl⟩ := beginFinish_eq_some h.sole hr
  refine h.rephase hl hg .finishing (by simp) (by simp) ?_ ?_
  · simp [HasPhase]
  · intro y q hy hq
    cases q <;> simpa [HasPhase, Ne.symm hy] using hq

theorem free {p : Party} (h : r.Reflects log) (hl : Lawful log) (hr : r.remove a x = some r') :
    r'.Reflects (log ++ [.freed p a x]) := by
  obtain ⟨g, hg, rfl, rfl, rfl⟩ := remove_eq_some h.sole hr
  obtain ⟨i, hi⟩ := h.registered g hg
  have mem {e : Registration} (he : e ∈ r.live.filter (·.spider != g.spider)) :
      e ∈ r.live ∧ e.execution ≠ g.execution := by
    simp only [List.mem_filter, bne_iff_ne, ne_eq] at he
    exact ⟨he.1, fun hx => he.2 (by rw [h.eq_of_execution hl he.1 hg hx])⟩
  have rest : Reflects { r with live := r.live.filter (·.spider != g.spider) }
      (log ++ [.freed p g.spider g.execution]) := by
    refine ⟨?_, ?_, ?_, ?_, ?_, ?_, h.justified.concat.of_signalsOf fun _ => rfl⟩
    · exact h.sole.sublist (List.filter_sublist.map _)
    · intro e he
      simpa using h.registered e (mem he).1
    · intro e he
      simpa [Ne.symm (mem he).2] using h.held e (mem he).1
    · intro e he
      have hp := h.phase e (mem he).1
      cases hph : e.phase <;> simpa [HasPhase, hph] using hp
    · intro j b y m hm
      replace hm : .registered j b y m ∈ log := by simpa using hm
      rw [freed_concat]
      rcases h.live_or_freed j b y m hm with ⟨e, he, rfl, rfl, rfl⟩ | hf
      · by_cases hs : e.spider = g.spider
        · cases h.sole.eq_of_spider he hg hs
          exact .inr (.inr ⟨p, _, rfl⟩)
        · exact .inl ⟨e, by simp [he, hs], rfl, rfl, rfl⟩
      · exact .inr (.inl hf)
    · intro j b y m hm
      exact h.number_lt j b y m (by simpa using hm)
  exact rest.signal (rest.justified.signal (fun _ => .inl) (fun _ => .inl) fun _ _ =>
    .inr ⟨i, _, _, List.mem_append_left _ hi, freed_concat.mpr (.inr ⟨p, _, rfl⟩)⟩)

end Reflects

end Registry

end Spiderworks
