import Spiderworks.Proofs.Engine.Steps

namespace Spiderworks

open History

variable {α : Type} {log : List Event} {event : Event} {s : Setup} {e : Engine} {i j k : Nat}

-- ### Lists of parties

theorem forall_getElem?_set {P : Nat → α → Prop} {l : List α} {v : α}
    (others : ∀ i c, i ≠ k → l[i]? = some c → P i c) (own : P k v) :
    ∀ i c, (l.set k v)[i]? = some c → P i c := by
  intro i c hi
  by_cases hik : i = k
  · subst hik
    rw [List.getElem?_set_self'] at hi
    obtain ⟨-, -, rfl⟩ := Option.map_eq_some_iff.mp hi
    exact own
  · rw [List.getElem?_set_ne (Ne.symm hik)] at hi
    exact others i c hik hi

theorem forall_getElem?_concat {P : Nat → α → Prop} {l : List α} {v : α}
    (others : ∀ i c, l[i]? = some c → P i c) (own : P l.length v) :
    ∀ i c, (l ++ [v])[i]? = some c → P i c := by
  intro i c hi
  rcases Nat.lt_trichotomy i l.length with hlt | rfl | hgt
  · rw [List.getElem?_append_left hlt] at hi
    exact others i c hi
  · simp only [List.getElem?_concat_length, Option.some.injEq] at hi
    exact hi ▸ own
  · rw [List.getElem?_eq_none (by simp; omega)] at hi
    cases hi

-- ### Whose event it is

theorem StartCall.event?_party {c : StartCall} {h : Hub} (he : event ∈ c.event? s i h) :
    event.party = .start i := by
  obtain ⟨spider, stage⟩ := c
  cases stage with
  | registering d =>
      obtain ⟨-, -, rfl⟩ := Option.map_eq_some_iff.mp he
      rfl
  | marking d x n =>
      cases he
      rfl
  | withdrawing x e =>
      obtain ⟨-, -, rfl⟩ := Option.map_eq_some_iff.mp he
      rfl
  | _ => cases he

theorem Run.event?_party {r : Run} {h : Hub} (he : event ∈ r.event? j h) :
    event.party = .run j := by
  obtain ⟨d, x, n, began, stage⟩ := r
  cases stage with
  | ended e =>
      simp only [event?] at he
      split at he
      · cases he
      · obtain ⟨-, -, rfl⟩ := Option.map_eq_some_iff.mp he
        rfl
  | claimed e =>
      cases he
      rfl
  | leaving =>
      obtain ⟨-, -, rfl⟩ := Option.map_eq_some_iff.mp he
      rfl
  | _ => cases he

theorem StopCall.event?_party {c : StopCall} {m : StopMove} {h : Hub}
    (he : event ∈ c.event? k m h) : event.party = .stop k := by
  obtain ⟨spider, stage⟩ := c
  cases stage with
  | asking =>
      obtain ⟨-, -, rfl⟩ := Option.map_eq_some_iff.mp he
      rfl
  | settling t =>
      simp only [event?] at he
      split at he
      · cases he
        rfl
      · cases he
  | marking t =>
      cases he
      rfl
  | leaving t result =>
      obtain ⟨-, -, rfl⟩ := Option.map_eq_some_iff.mp he
      rfl
  | _ => cases he

def Action.party? : Action → Option Party
  | .start i => some (.start i)
  | .run j _ => some (.run j)
  | .stop k _ => some (.stop k)
  | _ => none

theorem Engine.party_of_event {action : Action} (he : event ∈ e.event? s action) :
    action.party? = some event.party := by
  cases action with
  | start i =>
      obtain ⟨c, -, hc⟩ := Option.bind_eq_some_iff.mp he
      exact congrArg some (StartCall.event?_party hc).symm
  | run j m =>
      obtain ⟨r, -, hr⟩ := Option.bind_eq_some_iff.mp he
      exact congrArg some (Run.event?_party hr).symm
  | stop k m =>
      obtain ⟨c, -, hc⟩ := Option.bind_eq_some_iff.mp he
      exact congrArg some (StopCall.event?_party hc).symm
  | _ => cases he

-- ### The invariant

def Engine.Has (e : Engine) : Party → Prop
  | .start i => i < e.starts.length
  | .run j => j < e.runs.length
  | .stop k => k < e.stops.length

theorem Engine.Has.mono {e' : Engine} {p : Party} (hp : e.Has p)
    (starts : e.starts.length ≤ e'.starts.length) (runs : e.runs.length ≤ e'.runs.length)
    (stops : e.stops.length ≤ e'.stops.length) : e'.Has p := by
  cases p <;> simp only [Has] at hp ⊢ <;> omega

structure Engine.Sound (s : Setup) (e : Engine) (log : List Event) : Prop where
  hub : e.hub.Accords log
  starts : ∀ i (c : StartCall), e.starts[i]? = some c → c.Accords i log
  runs : ∀ j (r : Run), e.runs[j]? = some r → r.Accords j log
  stops : ∀ k (c : StopCall), e.stops[k]? = some c → c.Accords k log
  parties : ∀ event ∈ log, e.Has event.party
  distinct : (e.runs.map (·.execution)).Nodup
  recorded : ∀ x, Recorded log x → ∃ r ∈ e.runs, r.execution = x
  names : ∀ i a x n, .registered i a x n ∈ log → ∃ m < e.hub.named, s.names m = x
  calls : ∀ c ∈ e.calls, (∃ m < e.hub.named, s.names m = c.execution) ∧
    ∀ i a n, .registered i a c.execution n ∉ log

-- What one party does leaves the others in accord.
section Others

variable {o : Option Event} {p : Party}

theorem History.mem_append_of_party (event : Event) (ho : ∀ event ∈ o, event.party = p)
    (hp : event.party ≠ p) : event ∈ log ++ o.toList ↔ event ∈ log := by
  simp only [List.mem_append, Option.mem_toList, or_iff_left_iff_imp]
  intro hm
  exact absurd (ho event hm) hp

theorem StartCall.Accords.append {c : StartCall} (hc : c.Accords i log)
    (ho : ∀ event ∈ o, event.party = p) (hp : p ≠ .start i) : c.Accords i (log ++ o.toList) := by
  cases o with
  | none => simpa using hc
  | some event => exact hc.concat (ho event rfl ▸ hp)

theorem Run.Accords.append {r : Run} (hr : r.Accords j log)
    (ho : ∀ event ∈ o, event.party = p) (hp : p ≠ .run j) : r.Accords j (log ++ o.toList) := by
  cases o with
  | none => simpa using hr
  | some event => exact hr.concat (ho event rfl ▸ hp)

theorem StopCall.Accords.append {c : StopCall} (hc : c.Accords k log)
    (ho : ∀ event ∈ o, event.party = p) (hp : p ≠ .stop k) : c.Accords k (log ++ o.toList) := by
  cases o with
  | none => simpa using hc
  | some event => exact hc.concat (ho event rfl ▸ hp)

end Others

namespace Engine.Sound

theorem init (site : Site) : (Engine.ofSite site).Sound s [] := by
  refine ⟨⟨.nil, .empty⟩, ?_, ?_, ?_, ?_, ?_, ?_, ?_, ?_⟩
  all_goals simp [Engine.ofSite, Recorded]

-- Nothing has come yet from somebody who is not there yet.
theorem of_absent {p : Party} (hs : e.Sound s log) (hp : ¬e.Has p) :
    ∀ event ∈ log, event.party ≠ p := by
  rintro event hm rfl
  exact hp (hs.parties event hm)

theorem askStart (hs : e.Sound s log) (spider : Int) : (e.askStart spider).Sound s log where
  hub := hs.hub
  starts := forall_getElem?_concat hs.starts (hs.of_absent (by simp [Has]))
  runs := hs.runs
  stops := hs.stops
  parties event hm := by
    refine (hs.parties event hm).mono ?_ ?_ ?_ <;> simp [Engine.askStart]
  distinct := hs.distinct
  recorded := hs.recorded
  names := hs.names
  calls := hs.calls

theorem askStop (hs : e.Sound s log) (spider : Int) : (e.askStop spider).Sound s log where
  hub := hs.hub
  starts := hs.starts
  runs := hs.runs
  stops := forall_getElem?_concat hs.stops (hs.of_absent (by simp [Has]))
  parties event hm := by
    refine (hs.parties event hm).mono ?_ ?_ ?_ <;> simp [Engine.askStop]
  distinct := hs.distinct
  recorded := hs.recorded
  names := hs.names
  calls := hs.calls

-- Those who wait for a run take no part in it.
theorem waiting (hs : e.Sound s log) (waiters : List WaitCall) :
    Engine.Sound s { e with waiters := waiters } log :=
  ⟨hs.hub, hs.starts, hs.runs, hs.stops, fun event hm => (hs.parties event hm).mono
    (Nat.le_refl _) (Nat.le_refl _) (Nat.le_refl _), hs.distinct, hs.recorded, hs.names, hs.calls⟩

theorem askCall (fresh : Function.Injective s.names) (hs : e.Sound s log) (spider : Int)
    (code : Option String) : (e.askCall s spider code).Sound s log where
  hub := ⟨hs.hub.lawful, hs.hub.reflects⟩
  starts := hs.starts
  runs := hs.runs
  stops := hs.stops
  parties event hm := (hs.parties event hm).mono (Nat.le_refl _) (Nat.le_refl _) (Nat.le_refl _)
  distinct := hs.distinct
  recorded := hs.recorded
  names i a x n hm := by
    obtain ⟨m, hlt, hx⟩ := hs.names i a x n hm
    exact ⟨m, Nat.lt_succ_of_lt hlt, hx⟩
  calls c hc := by
    rcases List.mem_append.mp hc with hc | hc
    · obtain ⟨⟨m, hlt, hx⟩, hno⟩ := hs.calls c hc
      exact ⟨⟨m, Nat.lt_succ_of_lt hlt, hx⟩, hno⟩
    · cases List.mem_singleton.mp hc
      refine ⟨⟨e.hub.named, Nat.lt_succ_self _, rfl⟩, fun i a n hm => ?_⟩
      obtain ⟨m, hlt, hx⟩ := hs.names i a _ n hm
      exact absurd (fresh hx) (Nat.ne_of_lt hlt)

-- What comes is by somebody who is there.
theorem has_party {o : Option Event} {p : Party} (hs : e.Sound s log)
    (ho : ∀ event ∈ o, event.party = p) (hp : e.Has p) :
    ∀ event ∈ log ++ o.toList, e.Has event.party := by
  intro event hm
  rcases List.mem_append.mp hm with hm | hm
  · exact hs.parties event hm
  · exact ho event (Option.mem_toList.mp hm) ▸ hp

-- A run that comes into being is the first of its execution.
theorem new_run {c : StartCall} {r : Run} (hs : e.Sound s log) (hi : e.starts[i]? = some c)
    (hr : (c.step s e.hub).2.1 = some r)
    (hhub : (c.step s e.hub).2.2.Accords (log ++ (c.event? s i e.hub).toList)) :
    r.execution ∉ e.runs.map (·.execution) := by
  obtain ⟨he, -⟩ := StartCall.step_run (hs.starts i c hi) hr
    (hs.of_absent (p := .run e.runs.length) (Nat.lt_irrefl _))
  rw [he] at hhub
  intro hm
  obtain ⟨r', hm', hx⟩ := List.mem_map.mp hm
  obtain ⟨j, hj⟩ := List.getElem?_of_mem hm'
  obtain ⟨i', -, hb⟩ := (hs.runs j r' hj).begun
  rw [hx] at hb
  obtain ⟨rfl, -⟩ := hhub.lawful.begun_unique (List.mem_append_left _ hb)
    (List.mem_append_right _ (List.mem_singleton.mpr rfl))
  exact hhub.lawful.allowed_last.2 _ _ _ hb

theorem distinct_start {c : StartCall} (hs : e.Sound s log) (hi : e.starts[i]? = some c)
    (hhub : (c.step s e.hub).2.2.Accords (log ++ (c.event? s i e.hub).toList)) :
    ((e.runs ++ (c.step s e.hub).2.1.toList).map (·.execution)).Nodup := by
  cases hr : (c.step s e.hub).2.1 with
  | none => simpa using hs.distinct
  | some r =>
      have hnot := hs.new_run hi hr hhub
      simp only [Option.toList_some, List.map_append, List.map_cons, List.map_nil]
      refine List.nodup_append.mpr ⟨hs.distinct, List.nodup_singleton _, ?_⟩
      rintro x hx y hy rfl
      exact hnot (List.mem_singleton.mp hy ▸ hx)

theorem runs_start {c : StartCall} (hs : e.Sound s log) (hi : e.starts[i]? = some c) :
    ∀ j (r : Run), (e.runs ++ (c.step s e.hub).2.1.toList)[j]? = some r →
      r.Accords j (log ++ (c.event? s i e.hub).toList) := by
  have others (j : Nat) (r : Run) (hj : e.runs[j]? = some r) :
      r.Accords j (log ++ (c.event? s i e.hub).toList) :=
    (hs.runs j r hj).append (fun event => StartCall.event?_party) (by simp)
  cases hr : (c.step s e.hub).2.1 with
  | none =>
      intro j r hj
      exact others j r (by simpa using hj)
  | some r =>
      obtain ⟨he, hrun⟩ := StartCall.step_run (hs.starts i c hi) hr
        (hs.of_absent (p := .run e.runs.length) (Nat.lt_irrefl _))
      rw [← Option.toList_some, ← he] at hrun
      exact forall_getElem?_concat others hrun

theorem moveStart (fresh : Function.Injective s.names) (hs : e.Sound s log) (i : Nat) :
    (e.moveStart s i).Sound s (log ++ (e.event? s (.start i)).toList) := by
  simp only [Engine.moveStart, Engine.event?]
  cases hi : e.starts[i]? with
  | none => simpa using hs
  | some c =>
      have ho : ∀ event ∈ c.event? s i e.hub, event.party = .start i :=
        fun event => StartCall.event?_party
      have hnew : ∀ j b m, .registered j b (e.hub.newName s).1 m ∉ log := by
        intro j b m hm
        obtain ⟨m', hlt, hx⟩ := hs.names j b _ m hm
        exact absurd (fresh hx) (Nat.ne_of_lt hlt)
      obtain ⟨hhub, hown⟩ := StartCall.step_sound (s := s) hs.hub (hs.starts i c hi) hnew
      obtain ⟨hle, hname⟩ := StartCall.step_named (s := s) c e.hub
      simp only [Option.bind_some]
      refine ⟨hhub, ?_, hs.runs_start hi, ?_, ?_, hs.distinct_start hi hhub, ?_, ?_, ?_⟩
      · refine forall_getElem?_set (fun i' c' hne hi' => ?_) hown
        exact (hs.starts i' c' hi').append ho (by simpa using Ne.symm hne)
      · exact fun k c' hk => (hs.stops k c' hk).append ho (by simp)
      · intro event hm
        have hstart : i < e.starts.length := (List.getElem?_eq_some_iff.mp hi).1
        refine (hs.has_party ho hstart event hm).mono ?_ ?_ ?_ <;> simp
      · rintro x ⟨i', a, hm⟩
        rcases List.mem_append.mp hm with hm | hm
        · obtain ⟨r, hr, hx⟩ := hs.recorded x ⟨i', a, hm⟩
          exact ⟨r, List.mem_append_left _ hr, hx⟩
        · obtain ⟨r, hr, hx⟩ := StartCall.exists_run (Option.mem_toList.mp hm)
          exact ⟨r, List.mem_append_right _ (by simp [hr]), hx⟩
      · intro i' a x n hm
        rcases List.mem_append.mp hm with hm | hm
        · obtain ⟨m, hlt, hx⟩ := hs.names i' a x n hm
          exact ⟨m, Nat.lt_of_lt_of_le hlt hle, hx⟩
        · obtain ⟨rfl, hlt⟩ := hname i i' a x n (Option.mem_toList.mp hm)
          exact ⟨e.hub.named, hlt, rfl⟩
      · intro call hcall
        obtain ⟨⟨m, hlt, hx⟩, hno⟩ := hs.calls call hcall
        refine ⟨⟨m, Nat.lt_of_lt_of_le hlt hle, hx⟩, fun i' a n hm => ?_⟩
        rcases List.mem_append.mp hm with hm | hm
        · exact hno i' a n hm
        · have hn := (hname i i' a _ n (Option.mem_toList.mp hm)).1
          exact absurd (fresh (hx.trans hn)) (Nat.ne_of_lt hlt)

-- Nothing is started or named by anyone else.
theorem of_others {e' : Engine} {o : Option Event} {p : Party} (hs : e.Sound s log)
    (ho : ∀ event ∈ o, event.party = p) (hp : ∀ i, p ≠ .start i) (he : e.Has p)
    (hub : e'.hub.Accords (log ++ o.toList)) (named : e'.hub.named = e.hub.named)
    (starts : e'.starts = e.starts)
    (runs : ∀ j (r : Run), e'.runs[j]? = some r → r.Accords j (log ++ o.toList))
    (executions : e'.runs.map (·.execution) = e.runs.map (·.execution))
    (stops : ∀ k (c : StopCall), e'.stops[k]? = some c → c.Accords k (log ++ o.toList))
    (length : e'.stops.length = e.stops.length) (calls : e'.calls = e.calls) :
    e'.Sound s (log ++ o.toList) := by
  have hlen : e'.runs.length = e.runs.length := by simpa using congrArg List.length executions
  refine ⟨hub, ?_, runs, stops, ?_, executions ▸ hs.distinct, ?_, ?_, ?_⟩
  · intro i c hi
    exact (hs.starts i c (starts ▸ hi)).append ho (hp i)
  · intro event hm
    exact (hs.has_party ho he event hm).mono (by simp [starts])
      (Nat.le_of_eq hlen.symm) (Nat.le_of_eq length.symm)
  · rintro x ⟨i, a, hm⟩
    obtain ⟨r, hr, hx⟩ := hs.recorded x
      ⟨i, a, (mem_append_of_party (.begun i a x true) ho (hp i).symm).mp hm⟩
    have hx' : x ∈ e.runs.map (·.execution) := List.mem_map.mpr ⟨r, hr, hx⟩
    rw [← executions] at hx'
    exact List.mem_map.mp hx'
  · intro i a x n hm
    rw [named]
    exact hs.names i a x n ((mem_append_of_party (.registered i a x n) ho (hp i).symm).mp hm)
  · intro c hc
    obtain ⟨hname, hno⟩ := hs.calls c (calls ▸ hc)
    refine ⟨named ▸ hname, fun i a n hm => ?_⟩
    exact hno i a n
      ((mem_append_of_party (.registered i a c.execution n) ho (hp i).symm).mp hm)

-- No other task works for the execution of a run.
theorem sole {r : Run} {a : Int} (hs : e.Sound s log) (hj : e.runs[j]? = some r)
    (hc : .claimed i a r.execution ∈ log) : i = j := by
  have hi : i < e.runs.length := hs.parties _ hc
  have hx : r.execution = e.runs[i].execution :=
    ((hs.runs i _ (List.getElem?_eq_getElem hi)).own _ hc rfl).2
  have hget : (e.runs.map (·.execution))[i]? = (e.runs.map (·.execution))[j]? := by
    simp [hj, hi, hx]
  exact (List.getElem?_inj (by simpa using hi) hs.distinct).mp hget

theorem moveRun (hs : e.Sound s log) (j : Nat) (m : RunMove) :
    (e.moveRun s j m).Sound s (log ++ (e.event? s (.run j m)).toList) := by
  simp only [Engine.moveRun, Engine.event?]
  cases hj : e.runs[j]? with
  | none => simpa using hs
  | some r =>
      obtain ⟨hlt, -⟩ := List.getElem?_eq_some_iff.mp hj
      have ho : ∀ event ∈ r.event? j e.hub, event.party = .run j := fun event => Run.event?_party
      obtain ⟨hhub, hown⟩ := Run.step_sound (s := s) m hs.hub (hs.runs j r hj)
        fun i a => hs.sole hj
      refine hs.of_others ho (by simp) hlt hhub (Run.step_named r m e.hub) rfl ?_ ?_ ?_ rfl rfl
      · refine forall_getElem?_set (fun i r' hne hi => ?_) hown
        exact (hs.runs i r' hi).append ho (by simpa using Ne.symm hne)
      · have hlen : j < (e.runs.map (·.execution)).length := by simpa using hlt
        have hget : (r.step s m e.hub).1.execution = (e.runs.map (·.execution))[j] := by
          simp [(List.getElem?_eq_some_iff.mp hj).2, Run.step]
        rw [List.map_set, hget, List.set_getElem_self]
      · exact fun k c hk => (hs.stops k c hk).append ho (by simp)

theorem moveStop (hs : e.Sound s log) (k : Nat) (m : StopMove) :
    (e.moveStop s k m).Sound s (log ++ (e.event? s (.stop k m)).toList) := by
  simp only [Engine.moveStop, Engine.event?]
  cases hk : e.stops[k]? with
  | none => simpa using hs
  | some c =>
      obtain ⟨hlt, -⟩ := List.getElem?_eq_some_iff.mp hk
      have ho : ∀ event ∈ c.event? k m e.hub, event.party = .stop k :=
        fun event => StopCall.event?_party
      obtain ⟨hhub, hown⟩ := StopCall.step_sound (s := s) m hs.hub (hs.stops k c hk)
      refine hs.of_others ho (by simp) hlt hhub (StopCall.step_named c m e.hub) rfl ?_ rfl ?_ ?_ rfl
      · exact fun j r hj => (hs.runs j r hj).append ho (by simp)
      · refine forall_getElem?_set (fun i c' hne hi => ?_) hown
        exact (hs.stops i c' hi).append ho (by simpa using Ne.symm hne)
      · simp

theorem moveCall (hs : e.Sound s log) (i : Nat) (m : DirectMove) :
    (e.moveCall s i m).Sound s log := by
  unfold Engine.moveCall
  cases hi : e.calls[i]? with
  | none => exact hs
  | some c =>
      have hq := (DirectCall.step_spares (s := s) c m e.hub).toQuiet
      refine ⟨hs.hub.quiet hq, hs.starts, hs.runs, hs.stops, ?_, hs.distinct, hs.recorded, ?_, ?_⟩
      · exact fun event hm =>
          (hs.parties event hm).mono (Nat.le_refl _) (Nat.le_refl _) (Nat.le_refl _)
      · simpa only [hq.named] using hs.names
      · intro c' hc'
        simp only [hq.named]
        rcases List.mem_or_eq_of_mem_set hc' with hc' | rfl
        · exact hs.calls c' hc'
        · exact hs.calls c (List.mem_of_getElem? hi)

theorem act (fresh : Function.Injective s.names) (hs : e.Sound s log) (a : Action) :
    (e.act s a).Sound s (log ++ (e.event? s a).toList) := by
  cases a with
  | askStart spider => simpa [Engine.event?, Engine.act] using hs.askStart spider
  | askStop spider => simpa [Engine.event?, Engine.act] using hs.askStop spider
  | askCall spider code => simpa [Engine.event?, Engine.act] using hs.askCall fresh spider code
  | askWait spider => simpa [Engine.event?, Engine.act, Engine.askWait] using hs.waiting _
  | start i => exact hs.moveStart fresh i
  | run j m => exact hs.moveRun j m
  | stop k m => exact hs.moveStop k m
  | call i m => simpa [Engine.event?, Engine.act] using hs.moveCall i m
  | wait i => simpa [Engine.event?, Engine.act, Engine.moveWait] using hs.waiting _

end Engine.Sound

theorem Engine.sound (fresh : Function.Injective s.names) (site : Site) (actions : List Action) :
    ((ofSite site).perform s actions).Sound s ((ofSite site).history s actions) :=
  perform_induction (Sound.init site) (fun _ _ a hs => hs.act fresh a) actions

-- ### A small engine

-- It launches nothing, and its names are of growing length.
def Setup.small : Setup where
  layout := ⟨"files", "logs", "scripts"⟩
  launchers := ⟨"python3", "worker"⟩
  timeout := 1
  minutes := 0
  platform := fun _ _ => .error .notFound
  removal := fun _ _ => none
  names := fun n => String.ofList (List.replicate n 'x')
  clock := fun n => ⟨n, 0⟩

theorem Setup.small_names : Function.Injective Setup.small.names := by
  intro m n h
  simpa [Setup.small] using congrArg String.length h

-- A disk without files, and one spider.
def Site.small : Site :=
  ⟨.empty, .ofStore { Store.empty with
    spiders := [⟨1, "one", none, "", Status.inactive.name, "", none, 0, 0, 0⟩] }⟩

end Spiderworks
