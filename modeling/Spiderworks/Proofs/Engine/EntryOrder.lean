import Spiderworks.Proofs.Engine.Entries
import Spiderworks.Proofs.Engine.Lawful

namespace Spiderworks.History

variable {log more : List Event} {event : Event} {x y : String} {a b : Int} {i j k m n : Nat}

-- ### Executions that were entered

theorem Overtaken.append (h : Overtaken log x) : Overtaken (log ++ more) x := by
  obtain ⟨before, after, k, a, t, rfl, h⟩ := h
  exact ⟨before, after ++ more, k, a, t, by simp, h⟩

theorem Lawful.recorded_or_overtaken (h : Lawful log) (hf : Finalised log x) :
    Recorded log x ∨ Overtaken log x := by
  obtain ⟨final, hm, hfinal, rfl⟩ := hf
  cases final with
  | settled j a x e => exact .inl (h.recorded_of_claimed ⟨j, a, h.claimed_of_settled hm⟩)
  | stopped k a x =>
      obtain ⟨before, after, rfl, -, -, -, hx⟩ := h.exists_allowed hm
      refine hx.imp (fun ⟨i, b, hb⟩ => ⟨i, b, List.mem_append_left _ hb⟩) Overtaken.append
  | _ => cases hfinal

-- Whoever makes an entry works for an execution of the spider.
theorem Allowed.registered_of_entry (ha : Allowed log event) (h : Lawful log)
    (he : event.isEntry = true) :
    ∃ i n, .registered i event.spider event.execution n ∈ log := by
  cases event with
  | begun i a x r =>
      obtain ⟨n, hn⟩ := ha.1
      exact ⟨i, n, hn⟩
  | settled j a x e =>
      obtain ⟨before, after, hlog, -, -, ⟨i, hb⟩, -⟩ := h.exists_allowed ha.1
      obtain ⟨n, hn⟩ := h.registered_of_begun (hlog ▸ List.mem_append_left _ hb)
      exact ⟨i, n, hn⟩
  | stopped k a x =>
      obtain ⟨⟨t, hg, -, rfl⟩, -⟩ := ha
      obtain ⟨i, hi⟩ := h.registered_of_granted hg
      exact ⟨i, t.number, hi⟩
  | _ => cases he

-- A start enters its run once.
theorem Allowed.not_begun {r q : Bool} (ha : Allowed log (.begun i a x r)) (h : Lawful log) :
    .begun j b x q ∉ log := by
  intro hb
  obtain ⟨rfl, -⟩ := (h.concat ha).begun_unique (List.mem_append_left _ hb)
    (List.mem_append_right _ (List.mem_singleton.mpr rfl))
  exact ha.2 _ _ _ hb

-- ### Late entries

-- An entry comes late when the registration of its execution was freed before. That happens to a
-- start that is overtaken by the request to stop it, and to such a request after its start has
-- failed.
theorem Allowed.overtaken_of_freed (ha : Allowed log event) (h : Lawful log)
    (he : event.isEntry = true) (hf : Freed log event.execution) :
    Overtaken log event.execution ∧
      ((∃ i a x r, event = .begun i a x r ∧ Finalised log x) ∨
        ∃ k a x i b, event = .stopped k a x ∧ .begun i b x false ∈ log) := by
  cases event with
  | begun i a x r =>
      have hfinal : Finalised log x := by
        rcases h.finalised_of_freed hf with hfinal | ⟨j, b, hb⟩
        · exact hfinal
        · exact absurd hb (ha.not_begun h)
      refine ⟨?_, .inl ⟨i, a, x, r, rfl, hfinal⟩⟩
      rcases h.recorded_or_overtaken hfinal with ⟨j, b, hb⟩ | hx
      · exact absurd hb (ha.not_begun h)
      · exact hx
  | settled j a x e =>
      rcases h.finalised_of_freed hf with hfinal | ⟨i, b, hb⟩
      · exact absurd hfinal (ha.not_finalised h rfl)
      · exact absurd (h.recorded_of_claimed ⟨j, a, ha.1⟩) (h.not_recorded_of_begun hb)
  | stopped k a x =>
      rcases h.finalised_of_freed hf with hfinal | ⟨i, b, hb⟩
      · exact absurd hfinal (ha.not_finalised h rfl)
      · refine ⟨?_, .inr ⟨k, a, x, i, b, rfl, hb⟩⟩
        rcases ha.2.2 with hr | hx
        · exact absurd hr (h.not_recorded_of_begun hb)
        · exact hx
  | _ => cases he

-- ### Alternation

-- Of the executions of a spider only the last one may still hold its registration.
theorem Lawful.unfreed_unique (h : Lawful log) (hi : .registered i a x m ∈ log)
    (hj : .registered j a y n ∈ log) (hx : ¬Freed log x) (hy : ¬Freed log y) : x = y := by
  induction h with
  | nil => simp at hi
  | concat _ ha ih =>
      rw [freed_concat, not_or] at hx hy
      simp only [List.mem_append, List.mem_singleton] at hi hj
      rcases hi with hi | rfl <;> rcases hj with hj | hj
      · exact ih hi hj hx.1 hy.1
      · subst hj
        exact absurd (ha.2.2.2 _ _ _ hi) hx.1
      · exact absurd (ha.2.2.2 _ _ _ hj) hy.1
      · cases hj
        rfl

-- Every start was recorded, and nobody has waited too long.
structure Smooth (log : List Event) : Prop where
  recorded : ∀ i a x, .begun i a x false ∉ log
  patient : ∀ k a t, .expired k a t ∉ log

-- The spider is at work for an execution that was entered and not finalised.
def Running (log : List Event) (a : Int) : Prop :=
  ∃ i x n, .registered i a x n ∈ log ∧ Recorded log x ∧ ¬Finalised log x

-- What the entries have set the status of a spider to, one after the other.
def writes (log : List Event) (a : Int) : List Status :=
  log.filterMap fun event => if event.spider = a then event.status? else none

theorem Smooth.of_append (hs : Smooth (log ++ more)) : Smooth log where
  recorded i a x hm := hs.recorded i a x (List.mem_append_left _ hm)
  patient k a t hm := hs.patient k a t (List.mem_append_left _ hm)

theorem Smooth.not_overtaken (hs : Smooth log) : ¬Overtaken log x := by
  rintro ⟨before, after, k, a, t, rfl, -⟩
  exact hs.patient k a t (by simp)

theorem Smooth.recorded_of_finalised (hs : Smooth log) (h : Lawful log) (hf : Finalised log x) :
    Recorded log x :=
  (h.recorded_or_overtaken hf).resolve_right hs.not_overtaken

theorem Smooth.finalised_of_freed (hs : Smooth log) (h : Lawful log) (hf : Freed log x) :
    Finalised log x := by
  rcases h.finalised_of_freed hf with hf | ⟨i, a, hb⟩
  · exact hf
  · exact absurd hb (hs.recorded i a x)

theorem Smooth.not_freed_of_entry (hs : Smooth log) (h : Lawful log) (ha : Allowed log event)
    (he : event.isEntry = true) : ¬Freed log event.execution := fun hf =>
  hs.not_overtaken (ha.overtaken_of_freed h he hf).1

-- A start is entered while its spider is not at work.
theorem Smooth.running_of_begun (hs : Smooth log) (h : Lawful log)
    (ha : Allowed log (.begun i a x true)) :
    ¬Running log a ∧ Running (log ++ [.begun i a x true]) a := by
  obtain ⟨n, hn⟩ := ha.1
  have hrec : ¬Recorded log x := fun ⟨j, b, hb⟩ => ha.not_begun h hb
  constructor
  · rintro ⟨j, y, m, hm, hy, hfy⟩
    have hfree : ¬Freed log y := fun hf => hfy (hs.finalised_of_freed h hf)
    rw [h.unfreed_unique hm hn hfree (hs.not_freed_of_entry h ha rfl)] at hy
    exact hrec hy
  · refine ⟨i, x, n, List.mem_append_left _ hn, ?_, ?_⟩
    · simp
    · rw [finalised_concat]
      rintro (hf | ⟨hf, -⟩)
      · exact hrec (hs.recorded_of_finalised h hf)
      · cases hf

-- And finalised while it is at work.
theorem Smooth.running_of_final (hs : Smooth log) (h : Lawful log) (ha : Allowed log event)
    (hf : event.isFinal = true) :
    Running log event.spider ∧ ¬Running (log ++ [event]) event.spider := by
  have he : event.isEntry = true := Event.isEntry_of_isFinal hf
  obtain ⟨i, n, hn⟩ := ha.registered_of_entry h he
  have hrec : Recorded log event.execution := by
    cases event with
    | settled j a x e => exact h.recorded_of_claimed ⟨j, a, ha.1⟩
    | stopped k a x => exact ha.2.2.resolve_right hs.not_overtaken
    | _ => cases hf
  refine ⟨⟨i, _, n, hn, hrec, ha.not_finalised h hf⟩, ?_⟩
  rintro ⟨j, y, m, hm, hy, hfy⟩
  rw [finalised_concat, not_or] at hfy
  have hfree : ¬Freed log y := fun hf => hfy.1 (hs.finalised_of_freed h hf)
  have hm' : .registered j event.spider y m ∈ log := by
    cases event <;> first | simpa using hm | cases hf
  have hxy := h.unfreed_unique hn hm' (hs.not_freed_of_entry h ha he) hfree
  exact hfy.2 ⟨hf, hxy⟩

-- All else leaves it at that.
theorem Lawful.running_concat (h : Lawful log) (ha : Allowed log event)
    (he : event.isEntry = true → event.spider ≠ a) :
    Running (log ++ [event]) a ↔ Running log a := by
  constructor
  · rintro ⟨i, x, n, hm, hx, hf⟩
    rw [recorded_concat] at hx
    rw [finalised_concat, not_or] at hf
    rcases List.mem_append.mp hm with hold | hnew
    · refine ⟨i, x, n, hold, hx.resolve_right ?_, hf.1⟩
      rintro ⟨j, b, rfl⟩
      obtain ⟨m, hm'⟩ := ha.1
      exact he rfl (h.registered_unique hm' hold).2.1
    · cases List.mem_singleton.mp hnew
      obtain ⟨j, b, hb⟩ := hx.resolve_right nofun
      obtain ⟨m, hm'⟩ := h.registered_of_begun hb
      exact absurd hm' (ha.2.1 j b m)
  · rintro ⟨i, x, n, hm, hx, hf⟩
    refine ⟨i, x, n, List.mem_append_left _ hm, recorded_concat.mpr (.inl hx), ?_⟩
    rw [finalised_concat, not_or]
    refine ⟨hf, ?_⟩
    rintro ⟨hfinal, rfl⟩
    have hentry : event.isEntry = true := Event.isEntry_of_isFinal hfinal
    obtain ⟨j, m, hm'⟩ := ha.registered_of_entry h hentry
    exact he hentry (h.registered_unique hm' hm).2.1

-- ### Written statuses

theorem writes_concat (log : List Event) (event : Event) (a : Int) :
    writes (log ++ [event]) a =
      writes log a ++ (if event.spider = a then event.status? else none).toList := by
  rw [writes, List.filterMap_append, ← writes]
  cases h : (if event.spider = a then event.status? else none) <;> simp [h]

-- In a smooth history every entry writes a status, and nothing else does.
theorem Smooth.status?_eq_some (hs : Smooth (log ++ [event])) (ha : Allowed log event) :
    (event.status? = none ∧ event.isEntry = false) ∨ (∃ i a x, event = .begun i a x true) ∨
      ∃ status : Status,
        event.status? = some status ∧ status ≠ .running ∧ event.isFinal = true := by
  cases event with
  | begun i a x r =>
      cases r with
      | true => exact .inr (.inl ⟨i, a, x, rfl⟩)
      | false => exact absurd (by simp) (hs.recorded i a x)
  | settled j a x e =>
      cases e with
      | exited o =>
          refine .inr (.inr ⟨_, rfl, ?_, rfl⟩)
          unfold Status.ofExitCode
          split <;> decide
      | stopped => cases ha.2.1
      | failed e => exact .inr (.inr ⟨_, rfl, by decide, rfl⟩)
  | stopped k a x => exact .inr (.inr ⟨_, rfl, by decide, rfl⟩)
  | _ => exact .inl ⟨rfl, rfl⟩

-- The statuses alternate between `running` and another one, and `running` is in force at the end of
-- them just when the spider is at work.
structure Alternates (atWork : Prop) (statuses : List Status) : Prop where
  last : atWork ↔ statuses.getLast? = some .running
  odd : atWork ↔ statuses.length % 2 = 1
  nth : ∀ n status, statuses[n]? = some status → (status = .running ↔ n % 2 = 0)

theorem Alternates.concat {atWork : Prop} {statuses : List Status} {status : Status}
    (h : Alternates atWork statuses) (hs : status = .running ↔ ¬atWork) :
    Alternates (¬atWork) (statuses ++ [status]) where
  last := by simpa using hs.symm
  odd := by
    rw [h.odd, List.length_append, List.length_singleton]
    omega
  nth n later hn := by
    rcases Nat.lt_trichotomy n statuses.length with hlt | rfl | hgt
    · rw [List.getElem?_append_left hlt] at hn
      exact h.nth n later hn
    · simp only [List.getElem?_concat_length, Option.some.injEq] at hn
      rw [← hn, hs, h.odd]
      omega
    · rw [List.getElem?_eq_none (by simp; omega)] at hn
      cases hn

theorem Smooth.writes_alternate (hs : Smooth log) (h : Lawful log) (a : Int) :
    Alternates (Running log a) (writes log a) := by
  induction h with
  | nil => constructor <;> simp [Running, writes]
  | @concat log event h ha ih =>
      have ih := ih hs.of_append
      rw [writes_concat]
      by_cases hspider : event.spider = a
      · subst hspider
        rw [if_pos rfl]
        rcases hs.status?_eq_some ha with
          ⟨hnone, he⟩ | ⟨i, a, x, rfl⟩ | ⟨status, hsome, hne, hfinal⟩
        · rw [hnone, propext (h.running_concat ha (by simp [he]))]
          simpa using ih
        · obtain ⟨hbefore, hafter⟩ := hs.of_append.running_of_begun h ha
          have hnext : Alternates (¬Running log a) (writes log a ++ [.running]) :=
            ih.concat (by simpa [Event.spider] using hbefore)
          simpa [Event.spider, Event.status?, hbefore, hafter] using hnext
        · obtain ⟨hbefore, hafter⟩ := hs.of_append.running_of_final h ha hfinal
          have hnext : Alternates (¬Running log event.spider)
              (writes log event.spider ++ [status]) :=
            ih.concat (by simp [hbefore, hne])
          simpa [hsome, hbefore, hafter] using hnext
      · rw [if_neg hspider, propext (h.running_concat ha fun _ => hspider)]
        simpa using ih

end Spiderworks.History

namespace Spiderworks

open History

variable {log : List Event} {event : Event} {s : Setup} {e : Engine} {action : Action}

-- The spider is registered with another execution than the one that the entry is about.
def Registry.HoldsAnother (r : Registry) (event : Event) : Prop :=
  ∃ g ∈ r.live, g.spider = event.spider ∧ g.execution ≠ event.execution

theorem Registry.Reflects.holdsAnother_iff {r : Registry} {i n : Nat} (h : r.Reflects log)
    (hi : .registered i event.spider event.execution n ∈ log) :
    r.HoldsAnother event ↔ Freed log event.execution ∧
      ∃ j y m, .registered j event.spider y m ∈ log ∧ ¬Freed log y := by
  constructor
  · rintro ⟨g, hg, hs, hx⟩
    obtain ⟨j, hj⟩ := h.registered g hg
    refine ⟨?_, j, g.execution, g.number, hs ▸ hj, h.held g hg⟩
    rcases h.live_or_freed _ _ _ _ hi with ⟨g', hg', hs', hx', -⟩ | hf
    · rw [h.sole.eq_of_spider hg hg' (hs.trans hs'.symm)] at hx
      exact absurd hx' hx
    · exact hf
  · rintro ⟨hf, j, y, m, hj, hy⟩
    rcases h.live_or_freed _ _ _ _ hj with ⟨g, hg, hs, rfl, -⟩ | hf'
    · exact ⟨g, hg, hs, fun hx => hy (hx ▸ hf)⟩
    · exact absurd hf' hy

namespace Engine

-- An entry is stale just when its execution was freed and the spider was registered anew. Then a
-- request to stop the execution had waited long enough before the run had a task, and the entry
-- is that of the start, after the request was done, or that of the request, after the start had
-- failed. A task never makes a stale entry.
theorem stale_entry_iff (fresh : Function.Injective s.names) (site : Site) (actions : List Action)
    (he : ((ofSite site).perform s actions).event? s action = some event)
    (hentry : event.isEntry = true) :
    (((ofSite site).perform s actions).hub.registry.HoldsAnother event ↔
      Freed ((ofSite site).history s actions) event.execution ∧
        ∃ j y m, .registered j event.spider y m ∈ (ofSite site).history s actions ∧
          ¬Freed ((ofSite site).history s actions) y) ∧
    (((ofSite site).perform s actions).hub.registry.HoldsAnother event →
      Overtaken ((ofSite site).history s actions) event.execution ∧
        ((∃ i a x r, event = .begun i a x r ∧ Finalised ((ofSite site).history s actions) x) ∨
          ∃ k a x i b, event = .stopped k a x ∧
            .begun i b x false ∈ (ofSite site).history s actions)) := by
  have hs := Engine.sound fresh site actions
  have hl := hs.hub.lawful
  have ha : Allowed ((ofSite site).history s actions) event := by
    have hnext := (hs.act fresh action).hub.lawful
    rw [he] at hnext
    exact hnext.allowed_last
  obtain ⟨i, n, hi⟩ := ha.registered_of_entry hl hentry
  have hiff := hs.hub.reflects.holdsAnother_iff hi
  exact ⟨hiff, fun h => ha.overtaken_of_freed hl hentry (hiff.mp h).1⟩

-- A request to stop gives up waiting before the run is entered, and frees it. The spider is started
-- again.
def overtakenStart : List Action :=
  [.askStart 1, .start 0, .start 0, .start 0, .askStop 1, .stop 0 .onward, .stop 0 .onward,
    .stop 0 .expire, .stop 0 .onward, .stop 0 .onward, .askStart 1, .start 1, .start 1, .start 1]

-- Only then is the first run entered.
theorem stale_start_small : Function.Injective Setup.small.names ∧
    ((ofSite Site.small).perform Setup.small overtakenStart).hub.registry.HoldsAnother
      (.begun 0 1 "" true) ∧
    Overtaken ((ofSite Site.small).history Setup.small overtakenStart) "" := by
  have he : ((ofSite Site.small).perform Setup.small overtakenStart).event? Setup.small (.start 0) =
      some (.begun 0 1 "" true) := rfl
  have hanother : ((ofSite Site.small).perform Setup.small overtakenStart).hub.registry.HoldsAnother
      (.begun 0 1 "" true) :=
    ⟨⟨1, "x", .running, none, 1⟩, List.mem_of_getElem? (i := 0) rfl, rfl, by decide⟩
  exact ⟨Setup.small_names, hanother,
    ((stale_entry_iff Setup.small_names Site.small _ he rfl).2 hanother).1⟩

-- A start fails after a request to stop its run was granted. The spider is started again, and while
-- its second run is at work the request gives up waiting.
def refusedStart : List Action :=
  [.askStart 1, .start 0, .start 0, .start 0, .askStop 1, .stop 0 .onward, .stop 0 .onward,
    .start 0, .start 0, .askStart 1, .start 1, .start 1, .start 1, .start 1, .stop 0 .expire]

end Engine

-- The store refuses the second request, which is the first of the entry of a start.
def Site.refusing : Site :=
  { Site.small with
    shared := { Site.small.shared with
      refusal := fun n _ => if n = 1 then some "disk I/O error" else none } }

-- The run that the request stops is gone, and the status it writes is that of the second one.
theorem Engine.stale_stop_refusing :
    ((ofSite Site.refusing).perform Setup.small refusedStart).event? Setup.small (.stop 0 .onward) =
      some (.stopped 0 1 "") ∧
    ((ofSite Site.refusing).perform Setup.small refusedStart).hub.registry.live =
      [⟨1, "x", .running, none, 1⟩] ∧
    ((ofSite Site.refusing).perform Setup.small refusedStart).hub.rows.map (·.status) =
      ["running"] ∧
    ((ofSite Site.refusing).perform Setup.small
      (refusedStart ++ [.stop 0 .onward])).hub.rows.map (·.status) = ["stopped"] :=
  ⟨rfl, rfl, rfl, rfl⟩

end Spiderworks
