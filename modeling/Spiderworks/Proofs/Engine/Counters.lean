import Mathlib.Logic.Function.Iterate
import Spiderworks.Proofs.Engine.Ledger
import Spiderworks.Proofs.Engine.Stamps

namespace Spiderworks

open History

variable {s : Setup} {h : Hub} {e : Engine} {log : List Event} {rows rows' : List SpiderRow}
  {l l' : List (Int × Option Fate)} {a b : Int}

-- ### Counters of rows

def SpiderRow.counters (r : SpiderRow) : Int × Int × Int × Int :=
  (r.id, r.runs, r.successes, r.errors)

-- The counters of a row after everything in a ledger has been counted.
def SpiderRow.counted (l : List (Int × Option Fate)) (r : SpiderRow) : Int × Int × Int × Int :=
  (r.id, bump^[Ledger.number l r.id (·.isSome)] r.runs,
    bump^[Ledger.number l r.id (· == some .succeeded)] r.successes,
    bump^[Ledger.number l r.id (· == some .failed)] r.errors)

-- What a change of a row counts.
structure SpiderRow.Counts (f : SpiderRow → SpiderRow) (runs successes errors : Nat) : Prop where
  counters : ∀ r, (f r).counters =
    (r.id, bump^[runs] r.runs, bump^[successes] r.successes, bump^[errors] r.errors)

-- The ledger gains these entries of `b`, and none of anybody else.
structure Ledger.Gains (b : Int) (l l' : List (Int × Option Fate))
    (runs successes errors : Nat) : Prop where
  runs : ∀ a, number l' a (·.isSome) = number l a (·.isSome) + if b = a then runs else 0
  successes : ∀ a, number l' a (· == some .succeeded) =
    number l a (· == some .succeeded) + if b = a then successes else 0
  errors : ∀ a, number l' a (· == some .failed) =
    number l a (· == some .failed) + if b = a then errors else 0

theorem Store.counters_rewrite {f : SpiderRow → SpiderRow} {runs successes errors : Nat}
    (h : rows'.map SpiderRow.counters = rows.map (SpiderRow.counted l))
    (hf : SpiderRow.Counts f runs successes errors)
    (hl : Ledger.Gains b l l' runs successes errors) :
    (Store.rewrite b f rows').map SpiderRow.counters = rows.map (SpiderRow.counted l') := by
  let g (c : Int × Int × Int × Int) : Int × Int × Int × Int :=
    if c.1 = b then (c.1, bump^[runs] c.2.1, bump^[successes] c.2.2.1, bump^[errors] c.2.2.2)
    else c
  have hmap : (Store.rewrite b f rows').map SpiderRow.counters =
      (rows'.map SpiderRow.counters).map g := by
    rw [Store.rewrite, List.map_map, List.map_map]
    refine List.map_congr_left fun r _ => ?_
    by_cases hr : r.id = b
    · simp only [Function.comp_apply, hr, ↓reduceIte, hf.counters]
      simp [g, SpiderRow.counters, hr]
    · simp [g, SpiderRow.counters, hr]
  rw [hmap, h, List.map_map]
  refine List.map_congr_left fun r _ => ?_
  rw [Function.comp_apply, SpiderRow.counted, SpiderRow.counted, hl.runs, hl.successes, hl.errors]
  by_cases hr : r.id = b
  · simp only [g, hr, ↓reduceIte, ← Function.iterate_add_apply, Nat.add_comm]
  · simp [g, hr, Ne.symm hr]

-- ### What the entries count

theorem SpiderRow.Counts.rest : SpiderRow.Counts (fun r => r) 0 0 0 := ⟨fun _ => rfl⟩

theorem SpiderRow.counts_startEntry (now : Time.Instant) :
    SpiderRow.Counts (startEntry now) 1 0 0 := ⟨fun _ => rfl⟩

theorem SpiderRow.counts_callEntry (now : Time.Instant) :
    SpiderRow.Counts (callEntry now) 1 0 0 := ⟨fun _ => rfl⟩

theorem SpiderRow.counts_outcomeEntry (success : Bool) :
    SpiderRow.Counts (outcomeEntry success) 0 (if success then 1 else 0)
      (if success then 0 else 1) := by
  constructor
  intro r
  cases success <;> rfl

theorem RunEnd.counts_entry {f : RunEnd} (hf : f.isStopped = false) :
    SpiderRow.Counts f.entry 0 (if f.fate = .succeeded then 1 else 0)
      (if f.fate = .failed then 1 else 0) := by
  constructor
  intro r
  cases f with
  | exited o =>
      by_cases ho : o.code = 0 <;> simp [fate, entry, ho, SpiderRow.counters]
  | failed e => rfl
  | stopped => cases hf

-- ### What the ledger gains

namespace Ledger

theorem Gains.rest : Gains b l l 0 0 0 := by
  constructor <;> simp

theorem Turns.gains_rest {v : Option Fate} (h : Turns b v v l l') : Gains b l l' 0 0 0 := by
  constructor <;> intro a <;> simpa using h.number a _

theorem Turns.gains_entered (h : Turns b none (some .underWay) l l') : Gains b l l' 1 0 0 := by
  constructor <;> intro a
  · simpa [beq_iff_eq] using h.number a (·.isSome)
  · simpa using h.number a (· == some .succeeded)
  · simpa using h.number a (· == some .failed)

theorem Turns.gains_over {f : Fate} (h : Turns b (some .underWay) (some f) l l') :
    Gains b l l' 0 (if f = .succeeded then 1 else 0) (if f = .failed then 1 else 0) := by
  constructor <;> intro a
  · simpa using h.number a (·.isSome)
  · cases f <;> simpa using h.number a (· == some .succeeded)
  · cases f <;> simpa using h.number a (· == some .failed)

-- A call is asked for.
theorem gains_asked (h : l' = l ++ [(a, none)]) : Gains b l l' 0 0 0 := by
  subst h
  constructor <;> intro c <;> simp [number]

-- A run is entered, which a request to stop may have finalised before.
theorem gains_insert {f : Fate} (hf : f = .underWay ∨ f = .stopped)
    (l m : List (Int × Option Fate)) : Gains b (l ++ m) (l ++ [(b, some f)] ++ m) 1 0 0 := by
  constructor <;> intro a <;> rw [number_insert] <;> rcases hf with rfl | rfl <;> simp

end Ledger

-- A run that is entered has not ended yet, though a request to stop may have finalised it.
theorem History.Lawful.fate_of_entered {x : String} (h : Lawful log) (hx : ¬Recorded log x) :
    fate log x = .underWay ∨ fate log x = .stopped := by
  cases hf : fate? log x with
  | none => simp [fate, hf]
  | some f =>
      obtain ⟨event, hm, he⟩ := List.exists_of_findSome?_eq_some hf
      split at he
      · rename_i hevent
        cases event with
        | settled j a y e =>
            cases hevent
            exact absurd (h.recorded_of_claimed ⟨j, a, h.claimed_of_settled hm⟩) hx
        | stopped k a y =>
            cases he
            simp [fate, hf]
        | _ => cases he
      · cases he

-- ### The invariant

-- The spider of a call that was let in and is not over.
def DirectStage.definition? : DirectStage → Option Definition
  | .preparing d | .prepared d _ | .watching d _ _ | .recording d _ => some d
  | .admitting | .done _ => none

-- Between its two entries a call remains under way.
theorem DirectCall.step_between {c : DirectCall} (m : DirectMove) (hc : c.stage ≠ .admitting)
    (ho : ∀ d o, c.stage ≠ .recording d o) : (c.step s m h).1.fate? = c.fate? ∧
      ∀ d, (c.step s m h).1.stage.definition? = some d → c.stage.definition? = some d := by
  obtain ⟨spider, code, x, began, stage⟩ := c
  cases stage with
  | admitting => exact absurd rfl hc
  | preparing d =>
      simp only [step, nextStage, stepPreparing]
      split <;> exact ⟨rfl, fun _ => id⟩
  | prepared d p =>
      simp only [step, nextStage, stepPrepared]
      split <;> exact ⟨rfl, fun _ => id⟩
  | watching d p child => exact ⟨rfl, fun _ => id⟩
  | recording d o => exact absurd rfl (ho d o)
  | done r => exact ⟨rfl, fun _ => id⟩

-- `rows` are those before the engine went to work.
structure Engine.Counts (rows : List SpiderRow) (e : Engine) (log : List Event) : Prop where
  willing : e.hub.site.shared.Willing
  counters : e.hub.rows.map SpiderRow.counters = rows.map (SpiderRow.counted (e.ledger log))
  runs : ∀ r ∈ e.runs, r.spider.id ∈ rows.map (·.id)
  calls : ∀ c ∈ e.calls, ∀ d, c.stage.definition? = some d →
    d.id = c.spider ∧ d.id ∈ rows.map (·.id)

namespace Engine.Counts

theorem has_iff (h : e.Counts rows log) : e.hub.has a = true ↔ a ∈ rows.map (·.id) := by
  have hids : e.hub.rows.map (·.id) = rows.map (·.id) := by
    simpa [SpiderRow.counters, SpiderRow.counted, Function.comp_def] using
      congrArg (List.map Prod.fst) h.counters
  rw [Hub.has, Store.has_iff, ← hids]
  rfl

variable {e' : Engine} {log' : List Event}

-- A step that counts what the ledger gains.
theorem counted {f : SpiderRow → SpiderRow} {n m k : Nat} (h : e.Counts rows log)
    (willing : e'.hub.site.shared.Willing) (hrows : e'.hub.rows = Store.rewrite b f e.hub.rows)
    (hf : SpiderRow.Counts f n m k) (hl : Ledger.Gains b (e.ledger log) (e'.ledger log') n m k)
    (runs : ∀ r ∈ e'.runs, r.spider.id ∈ rows.map (·.id))
    (calls : ∀ c ∈ e'.calls, ∀ d, c.stage.definition? = some d →
      d.id = c.spider ∧ d.id ∈ rows.map (·.id)) : e'.Counts rows log' where
  willing := willing
  counters := hrows ▸ Store.counters_rewrite h.counters hf hl
  runs := runs
  calls := calls

-- A step that counts nothing.
theorem quiet (h : e.Counts rows log) (same : e.hub.Same (List.map SpiderRow.counters) e'.hub)
    (hl : Ledger.Gains b (e.ledger log) (e'.ledger log') 0 0 0)
    (runs : ∀ r ∈ e'.runs, r.spider.id ∈ rows.map (·.id))
    (calls : ∀ c ∈ e'.calls, ∀ d, c.stage.definition? = some d →
      d.id = c.spider ∧ d.id ∈ rows.map (·.id)) : e'.Counts rows log' where
  willing := SharedStore.Same.willing same h.willing
  counters := by
    have hcounters := Store.counters_rewrite h.counters SpiderRow.Counts.rest hl
    rw [Store.rewrite_self] at hcounters
    exact (show e'.hub.rows.map SpiderRow.counters = _ from same.rows).trans hcounters
  runs := runs
  calls := calls

-- ### Steps

-- A start that enters no run counts nothing.
theorem moveStart_idle {c : StartCall} {i : Nat} (h : e.Counts rows log)
    (same : e.hub.Same (List.map SpiderRow.counters) (c.step s e.hub).2.2)
    (hnone : (c.step s e.hub).2.1 = none)
    (ho : ∀ event ∈ c.event? s i e.hub, event.isFinal = false) :
    Engine.Counts rows { e with
      hub := (c.step s e.hub).2.2
      starts := e.starts.set i (c.step s e.hub).1
      runs := e.runs ++ (c.step s e.hub).2.1.toList } (log ++ (c.event? s i e.hub).toList) := by
  refine h.quiet (b := 0) same ?_ (by simpa [hnone] using h.runs) h.calls
  simp only [Engine.ledger, hnone, Option.toList_none, List.append_nil,
    Ledger.ofRuns_append fun event he r _ => .inl (ho event he)]
  exact .rest

theorem moveStart_entered {c : StartCall} {d : Definition} {x : String} {i n : Nat}
    (hs : e.Sound s log) (h : e.Counts rows log) (hi : e.starts[i]? = some c)
    (hm : c.stage = .marking d x n) (hid : e.hub.has d.id = true)
    (hhub : (c.step s e.hub).2.2.Accords (log ++ (c.event? s i e.hub).toList)) :
    Engine.Counts rows { e with
      hub := (c.step s e.hub).2.2
      starts := e.starts.set i (c.step s e.hub).1
      runs := e.runs ++ (c.step s e.hub).2.1.toList } (log ++ (c.event? s i e.hub).toList) := by
  have hstep := StartCall.step_entered (s := s) hm h.willing hid
  have hnew := hs.new_run hi (by rw [hstep]) hhub
  have hx : ¬Recorded log x := fun hx => by
    obtain ⟨r, hr, hrx⟩ := hs.recorded x hx
    exact hnew (List.mem_map.mpr ⟨r, hr, hrx⟩)
  have hruns : Ledger.ofRuns e.runs (log ++ [.begun i d.id x true]) = Ledger.ofRuns e.runs log :=
    Ledger.ofRuns_append (o := some (.begun i d.id x true))
      fun event he _ _ => .inl (by cases he; rfl)
  have hfate : fate (log ++ [.begun i d.id x true]) x = fate log x :=
    fate_concat_other (.inl rfl)
  have hrows : (c.step s e.hub).2.2.rows =
      Store.rewrite d.id (startEntry (s.clock e.hub.readings)) e.hub.rows := by
    rw [hstep, Bookkeeping.after_runStarted]
    rfl
  refine h.counted (by rw [hstep]; exact ⟨h.willing.refusal, h.willing.poisoned⟩) hrows
    (SpiderRow.counts_startEntry _) ?_ ?_ h.calls
  · simp only [StartCall.event?, hm, hstep, Option.isSome_some, Engine.ledger]
    rw [Option.toList_some, Option.toList_some, Ledger.ofRuns_concat, hruns]
    exact hfate ▸ Ledger.gains_insert (hs.hub.lawful.fate_of_entered hx) _ _
  · intro r hr
    rcases List.mem_append.mp hr with hr | hr
    · exact h.runs r hr
    · rw [hstep] at hr
      cases List.mem_singleton.mp hr
      exact h.has_iff.mp hid

theorem moveStart (fresh : Function.Injective s.names) (hs : e.Sound s log)
    (h : e.Counts rows log) (i : Nat) :
    (e.moveStart s i).Counts rows (log ++ (e.event? s (.start i)).toList) := by
  have hsound := hs.moveStart fresh i
  simp only [Engine.moveStart, Engine.event?] at hsound ⊢
  cases hi : e.starts[i]? with
  | none => simpa using h
  | some c =>
      simp only [hi, Option.bind_some] at hsound ⊢
      by_cases hmarking : ∃ d x n, c.stage = .marking d x n
      · obtain ⟨d, x, n, hm⟩ := hmarking
        cases hid : e.hub.has d.id with
        | false =>
            obtain ⟨err, hstep⟩ := StartCall.step_unknown (s := s) hm h.willing hid
            refine h.moveStart_idle (by rw [hstep]; exact ⟨rfl, rfl, rfl⟩) (by rw [hstep]) ?_
            intro event he
            simp only [StartCall.event?, hm, Option.mem_def, Option.some.injEq] at he
            rw [← he]
            rfl
        | true => exact h.moveStart_entered hs hi hm hid hsound.hub
      · refine h.moveStart_idle (StartCall.step_same fun d x n hm => hmarking ⟨d, x, n, hm⟩) ?_ ?_
        · exact Option.eq_none_iff_forall_ne_some.mpr fun r hr =>
            hmarking (StartCall.stage_of_run hr)
        · exact fun event he => Bool.eq_false_iff.mpr fun hf =>
            hmarking (StartCall.stage_of_entry he (Event.isEntry_of_isFinal hf))

theorem runs_set {j : Nat} {r : Run} (m : RunMove) (h : e.Counts rows log)
    (hj : e.runs[j]? = some r) : ∀ r' ∈ e.runs.set j (r.step s m e.hub).1,
      r'.spider.id ∈ rows.map (·.id) := by
  intro r' hr'
  rcases List.mem_or_eq_of_mem_set hr' with hr' | rfl
  · exact h.runs r' hr'
  · exact h.runs r (List.mem_of_getElem? hj)

theorem moveRun (fresh : Function.Injective s.names) (hs : e.Sound s log)
    (h : e.Counts rows log) (j : Nat) (m : RunMove) :
    (e.moveRun s j m).Counts rows (log ++ (e.event? s (.run j m)).toList) := by
  have hlawful := (hs.act fresh (.run j m)).hub.lawful
  simp only [Engine.moveRun, Engine.event?] at hlawful ⊢
  cases hj : e.runs[j]? with
  | none => simpa using h
  | some r =>
      simp only [hj, Option.bind_some] at hlawful ⊢
      have hledger (log' : List Event) :
          Ledger.ofRuns (e.runs.set j (r.step s m e.hub).1) log' = Ledger.ofRuns e.runs log' :=
        Ledger.ofRuns_set hj rfl rfl
      by_cases hclaimed : ∃ f, r.stage = .claimed f
      · obtain ⟨f, hf⟩ := hclaimed
        obtain ⟨hw, hrows⟩ := Run.step_claimed (s := s) m hf h.willing
          (h.has_iff.mpr (h.runs r (List.mem_of_getElem? hj)))
        have hstage := (hs.runs j r hj).stage
        simp only [Run.StageAccords, hf] at hstage
        simp only [Run.event?, hf, Option.toList_some] at hlawful ⊢
        have hturns := Ledger.turns_final hs.distinct hj rfl
          (hlawful.allowed_last.not_finalised hs.hub.lawful rfl) rfl
        refine h.counted hw hrows (RunEnd.counts_entry hstage.2.1) ?_ (h.runs_set m hj) h.calls
        rw [Engine.ledger, Engine.ledger, hledger]
        exact (hturns.append_right _).gains_over
      · have ho : ∀ event ∈ r.event? j e.hub, event.isFinal = false := fun event he =>
          Bool.eq_false_iff.mpr fun hf =>
            hclaimed (Run.stage_of_entry he (Event.isEntry_of_isFinal hf))
        refine h.quiet (b := 0) (Run.step_same m fun f hf => hclaimed ⟨f, hf⟩) ?_
          (h.runs_set m hj) h.calls
        rw [Engine.ledger, Engine.ledger, hledger,
          Ledger.ofRuns_append fun event he r _ => .inl (ho event he)]
        exact .rest

theorem moveStop (fresh : Function.Injective s.names) (hs : e.Sound s log)
    (h : e.Counts rows log) (k : Nat) (m : StopMove) :
    (e.moveStop s k m).Counts rows (log ++ (e.event? s (.stop k m)).toList) := by
  have hlawful := (hs.act fresh (.stop k m)).hub.lawful
  simp only [Engine.moveStop, Engine.event?] at hlawful ⊢
  cases hk : e.stops[k]? with
  | none => simpa using h
  | some c =>
      simp only [hk, Option.bind_some] at hlawful ⊢
      have same : e.hub.Same (List.map SpiderRow.counters) (c.step s m e.hub).2 :=
        c.step_same_but_status (fun _ _ => rfl) m
      by_cases hmarking : ∃ t, c.stage = .marking t
      · obtain ⟨t, ht⟩ := hmarking
        simp only [StopCall.event?, ht, Option.toList_some] at hlawful ⊢
        have hnot := hlawful.allowed_last.not_finalised hs.hub.lawful rfl
        by_cases hx : ∃ r ∈ e.runs, t.execution = r.execution
        · obtain ⟨r, hr, hx⟩ := hx
          obtain ⟨j, hj⟩ := List.getElem?_of_mem hr
          have hturns := Ledger.turns_final hs.distinct hj
            (show (Event.stopped k c.spider t.execution).execution = _ from hx) hnot rfl
          exact h.quiet same (hturns.append_right _).gains_over h.runs h.calls
        · refine h.quiet (b := 0) same ?_ h.runs h.calls
          have hruns : Ledger.ofRuns e.runs (log ++ [.stopped k c.spider t.execution]) =
              Ledger.ofRuns e.runs log :=
            Ledger.ofRuns_append (o := some (.stopped k c.spider t.execution)) fun event he r hr =>
              .inr (by cases he; exact fun hxr => hx ⟨r, hr, hxr⟩)
          rw [Engine.ledger, Engine.ledger, hruns]
          exact .rest
      · have ho : ∀ event ∈ c.event? k m e.hub, event.isFinal = false := fun event he =>
          Bool.eq_false_iff.mpr fun hf =>
            hmarking (StopCall.stage_of_entry he (Event.isEntry_of_isFinal hf))
        refine h.quiet (b := 0) same ?_ h.runs h.calls
        rw [Engine.ledger, Engine.ledger,
          Ledger.ofRuns_append fun event he r _ => .inl (ho event he)]
        exact .rest

-- A step of a call that counts what its entry of the ledger gains.
theorem call_counted {c c' : DirectCall} {g : Hub} {f : SpiderRow → SpiderRow} {i n m k : Nat}
    (h : e.Counts rows log) (hi : e.calls[i]? = some c) (hc : c'.spider = c.spider)
    (willing : g.site.shared.Willing) (hrows : g.rows = Store.rewrite c.spider f e.hub.rows)
    (hf : SpiderRow.Counts f n m k)
    (hl : ∀ l l', Ledger.Turns c.spider c.fate? c'.fate? l l' →
      Ledger.Gains c.spider l l' n m k)
    (own : ∀ d, c'.stage.definition? = some d → d.id = c'.spider ∧ d.id ∈ rows.map (·.id)) :
    Engine.Counts rows { e with hub := g, calls := e.calls.set i c' } log := by
  refine h.counted willing hrows hf
    (hl _ _ ((Ledger.turns_call hi hc).append_left (Ledger.ofRuns e.runs log))) h.runs ?_
  intro v hv d hd
  rcases List.mem_or_eq_of_mem_set hv with hv | rfl
  · exact h.calls v hv d hd
  · exact own d hd

theorem moveCall_admitting {c : DirectCall} {i : Nat} (m : DirectMove) (h : e.Counts rows log)
    (hi : e.calls[i]? = some c) (hc : c.stage = .admitting) : Engine.Counts rows { e with
      hub := (c.step s m e.hub).2
      calls := e.calls.set i (c.step s m e.hub).1 } log := by
  have hnone : c.fate? = none := by rw [DirectCall.fate?, hc]
  rcases DirectCall.step_admitting (s := s) m hc with ⟨err, asked, hstep⟩ | ⟨y, -, hy, hcheck, -⟩
  · rw [hstep]
    refine h.call_counted hi rfl ⟨h.willing.refusal, h.willing.poisoned⟩
      (Store.rewrite_self _ _).symm .rest (fun l l' hl => ?_) nofun
    rw [hnone] at hl
    exact hl.gains_rest
  · have hid := Store.spider?_eq_some hy
    rw [DirectCall.step_let_in m hc h.willing hy hcheck, Bookkeeping.after_callStarted]
    refine h.call_counted (f := callEntry (s.clock (e.hub.readings + 1))) hi rfl
      ⟨h.willing.refusal, h.willing.poisoned⟩ rfl (SpiderRow.counts_callEntry _)
      (fun l l' hl => ?_) ?_
    · rw [hnone] at hl
      exact hl.gains_entered
    · intro d hd
      cases hd
      exact ⟨hid.1, (show y.definition.id = c.spider from hid.1) ▸ h.has_iff.mp hid.2⟩

theorem moveCall_recording {c : DirectCall} {d : Definition} {o : DirectOutcome} {i : Nat}
    (m : DirectMove) (h : e.Counts rows log) (hi : e.calls[i]? = some c)
    (hc : c.stage = .recording d o) : Engine.Counts rows { e with
      hub := (c.step s m e.hub).2
      calls := e.calls.set i (c.step s m e.hub).1 } log := by
  have hold : c.fate? = some .underWay := by rw [DirectCall.fate?, hc]
  obtain ⟨hid, hrow⟩ := h.calls c (List.mem_of_getElem? hi) d (by rw [hc]; rfl)
  obtain ⟨r, nanos, -, hstep⟩ :=
    DirectCall.step_recording_eq (s := s) m hc h.willing (h.has_iff.mpr hrow)
  rw [hstep, Bookkeeping.after_callEnded]
  refine h.call_counted (f := outcomeEntry r.success) hi rfl
    ⟨h.willing.refusal, h.willing.poisoned⟩ (hid ▸ rfl) (SpiderRow.counts_outcomeEntry _)
    (fun l l' hl => ?_) nofun
  rw [hold] at hl
  have hgains := hl.gains_over
  cases hr : r.success <;> simpa [hr] using hgains

theorem moveCall_between {c : DirectCall} {i : Nat} (m : DirectMove) (h : e.Counts rows log)
    (hi : e.calls[i]? = some c) (hc : c.stage ≠ .admitting)
    (ho : ∀ d o, c.stage ≠ .recording d o) : Engine.Counts rows { e with
      hub := (c.step s m e.hub).2
      calls := e.calls.set i (c.step s m e.hub).1 } log := by
  have same := DirectCall.step_same (s := s) (h := e.hub) (g := id) m hc ho
  obtain ⟨hfate, hdefinition⟩ := DirectCall.step_between (s := s) (h := e.hub) m hc ho
  refine h.call_counted hi rfl (SharedStore.Same.willing same h.willing)
    (same.rows.trans (Store.rewrite_self _ _).symm) .rest (fun l l' hl => ?_) fun d hd => ?_
  · rw [hfate] at hl
    exact hl.gains_rest
  · exact h.calls c (List.mem_of_getElem? hi) d (hdefinition d hd)

theorem moveCall (h : e.Counts rows log) (i : Nat) (m : DirectMove) :
    (e.moveCall s i m).Counts rows log := by
  simp only [Engine.moveCall]
  cases hi : e.calls[i]? with
  | none => exact h
  | some c =>
      by_cases hc : c.stage = .admitting
      · exact h.moveCall_admitting m hi hc
      · by_cases ho : ∃ d o, c.stage = .recording d o
        · obtain ⟨d, o, ho⟩ := ho
          exact h.moveCall_recording m hi ho
        · exact h.moveCall_between m hi hc fun d o hdo => ho ⟨d, o, hdo⟩

theorem act (fresh : Function.Injective s.names) (hs : e.Sound s log) (h : e.Counts rows log)
    (action : Action) : (e.act s action).Counts rows (log ++ (e.event? s action).toList) := by
  cases action with
  | askStart spider | askStop spider | askWait spider | wait i =>
      exact (List.append_nil log).symm ▸ ⟨h.willing, h.counters, h.runs, h.calls⟩
  | askCall spider code =>
      have hledger : (e.askCall s spider code).ledger log = e.ledger log ++ [(spider, none)] := by
        simp [Engine.ledger, Engine.askCall, Ledger.ofCalls, DirectCall.fate?]
      refine (List.append_nil log).symm ▸ h.quiet (b := 0) ⟨rfl, rfl, rfl⟩
        (Ledger.gains_asked hledger) h.runs fun c hc d hd => ?_
      rcases List.mem_append.mp hc with hc | hc
      · exact h.calls c hc d hd
      · cases List.mem_singleton.mp hc
        cases hd
  | start i => exact h.moveStart fresh hs i
  | run j m => exact h.moveRun fresh hs j m
  | stop k m => exact h.moveStop fresh hs k m
  | call i m => exact (List.append_nil log).symm ▸ h.moveCall i m

end Engine.Counts

theorem Engine.counts (fresh : Function.Injective s.names) (site : Site)
    (willing : site.shared.Willing) (actions : List Action) :
    ((ofSite site).perform s actions).Counts site.shared.store.spiders
      ((ofSite site).history s actions) := by
  refine (perform_induction (P := fun e log => e.Sound s log ∧
    e.Counts site.shared.store.spiders log) ?_ (fun e log a h => ?_) actions).2
  · refine ⟨Sound.init site, willing, ?_, by simp [ofSite], by simp [ofSite]⟩
    simp [SpiderRow.counters, SpiderRow.counted, Hub.rows, ofSite, Hub.ofSite, Engine.ledger,
      Ledger.ofRuns, Ledger.ofCalls, Ledger.number]
  · exact ⟨h.1.act fresh a, h.2.act fresh h.1 a⟩

end Spiderworks
