import Spiderworks.Proofs.Engine.RunLog
import Spiderworks.Proofs.Engine.Stamps
import Spiderworks.Proofs.Engine.StoredStatus

namespace Spiderworks

open History

variable {log : List Event} {s : Setup} {e e' : Engine} {i j k : Nat} {r : Run}
  {rows : List SpiderRow}

theorem Run.event?_execution {event : Event} {h : Hub} (he : event ∈ r.event? j h) :
    event.execution = r.execution := by
  obtain ⟨d, x, n, began, stage⟩ := r
  cases stage with
  | ended f =>
      simp only [event?] at he
      split at he
      · cases he
      · obtain ⟨-, -, rfl⟩ := Option.map_eq_some_iff.mp he
        rfl
  | claimed f =>
      cases he
      rfl
  | leaving =>
      obtain ⟨-, -, rfl⟩ := Option.map_eq_some_iff.mp he
      rfl
  | _ => cases he

-- Whatever a run writes is about its own execution.
theorem Engine.Sound.told_run {x : String} (m : RunMove) (hs : e.Sound s log)
    (hj : e.runs[j]? = some r) (hwilling : e.hub.site.shared.Willing)
    (hid : e.hub.has r.spider.id = true) (hx : x ≠ r.execution) :
    (r.step s m e.hub).2.told x = e.hub.told x := by
  by_cases hclaimed : ∃ f, r.stage = .claimed f
  · obtain ⟨f, hf⟩ := hclaimed
    have haccords := (hs.runs j r hj).stage
    simp only [Run.StageAccords, hf] at haccords
    obtain ⟨message, hnotes⟩ := Run.notes_claimed (s := s) m hf haccords.2.1 hwilling hid
    refine Hub.told_of_others hnotes (fun n hn => ?_) hx
    rw [List.mem_singleton.mp hn]
    rfl
  · exact Hub.told_of_others
      (Run.notes_step (s := s) m hwilling hid fun f hf => hclaimed ⟨f, hf⟩)
      (fun n => Run.mem_entries) hx

-- ### The invariant

-- `silent`: nothing is said of an execution that nobody has entered. `unborn`: a run that is not
-- there has launched nothing. `runs`: what is said of the runs, of those at least that keep their
-- processes and that nobody is in a hurry to stop.
structure Engine.Logs (s : Setup) (e : Engine) (log : List Event) (child : Nat → Option Child)
    (kept : Nat → Prop) : Prop where
  silent : ∀ n, (∀ r ∈ e.runs, r.execution ≠ s.names n) →
    (∀ c ∈ e.calls, c.execution ≠ s.names n) → ¬Hurried log (s.names n) →
    e.hub.told (s.names n) = []
  unborn : ∀ j, e.runs.length ≤ j → child j = none
  runs : ∀ j r, e.runs[j]? = some r → kept j → ¬Hurried log r.execution →
    r.Told j (child j) log (e.hub.told r.execution)

-- The process of a run after one more action.
def Engine.also (e : Engine) (child : Nat → Option Child) (j : Nat) : Option Child :=
  (child j).or (e.launched? j)

theorem Engine.also_none {child : Nat → Option Child} (hc : child j = none)
    (hj : e.runs.length ≤ j) : e.also child j = none := by
  rw [also, hc, launched?, List.getElem?_eq_none hj]
  rfl

namespace Engine.Logs

variable {child : Nat → Option Child} {kept kept' : Nat → Prop}

-- An action that moves no run.
theorem frame {o : Option Event} (h : e.Logs s log child kept) (hkept : ∀ j, kept' j → kept j)
    (hruns : e'.runs = e.runs)
    (hcalls : ∀ c ∈ e.calls, ∃ c' ∈ e'.calls, c'.execution = c.execution)
    (hsilent : ∀ n, (∀ r ∈ e.runs, r.execution ≠ s.names n) →
      (∀ c ∈ e.calls, c.execution ≠ s.names n) → ¬Hurried log (s.names n) →
      e'.hub.told (s.names n) = e.hub.told (s.names n))
    (htold : ∀ j (r : Run), e.runs[j]? = some r → ¬Hurried log r.execution →
      r.Told j (child j) log (e.hub.told r.execution) →
      r.Told j (child j) (log ++ o.toList) (e'.hub.told r.execution)) :
    e'.Logs s (log ++ o.toList) (e'.also child) kept' where
  silent n hr hc hn := by
    have hn' : ¬Hurried log (s.names n) := fun hh => hn hh.append
    have hc' : ∀ c ∈ e.calls, c.execution ≠ s.names n := by
      intro c hm
      obtain ⟨c', hm', hx⟩ := hcalls c hm
      exact hx ▸ hc c' hm'
    rw [hruns] at hr
    rw [hsilent n hr hc' hn']
    exact h.silent n hr hc' hn'
  unborn j hj := also_none (h.unborn j (hruns ▸ hj)) hj
  runs j r hj hk hn := by
    rw [hruns] at hj
    have hn' : ¬Hurried log r.execution := fun hh => hn hh.append
    have hold := h.runs j r hj (hkept j hk) hn'
    have hchild : e'.also child j = child j := by
      rw [also, launched?, hruns, hj]
      exact hold.fits.or_child
    rw [hchild]
    exact htold j r hj hn' hold

-- One that writes nothing either.
theorem quiet {o : Option Event} (h : e.Logs s log child kept) (hkept : ∀ j, kept' j → kept j)
    (hruns : e'.runs = e.runs)
    (hcalls : ∀ c ∈ e.calls, ∃ c' ∈ e'.calls, c'.execution = c.execution)
    (hnotes : e'.hub.notes = e.hub.notes)
    (hevent : ∀ event ∈ o, event.isFinal = false ∧ ∀ j, event.party ≠ .run j) :
    e'.Logs s (log ++ o.toList) (e'.also child) kept' := by
  have htold (x : String) : e'.hub.told x = e.hub.told x := by
    rw [Hub.told, hnotes, Hub.told]
  refine h.frame hkept hruns hcalls (fun n _ _ _ => htold _) fun j r _ _ hold => ?_
  rw [htold]
  exact hold.quiet (fun event he => (hevent event he).2 j) fun event he _ => (hevent event he).1

-- ### Starts

theorem moveStart_idle {c : StartCall} (h : e.Logs s log child kept)
    (hkept : ∀ j, kept' j → kept j) (hi : e.starts[i]? = some c)
    (hwilling : e.hub.site.shared.Willing) (hc : ∀ d x n, c.stage ≠ .marking d x n) :
    (e.act s (.start i)).Logs s (log ++ (e.event? s (.start i)).toList)
      ((e.act s (.start i)).also child) kept' := by
  have hnone : (c.step s e.hub).2.1 = none := by
    cases hr : (c.step s e.hub).2.1 with
    | none => rfl
    | some r =>
        obtain ⟨d, x, n, hd⟩ := StartCall.stage_of_run hr
        exact absurd hd (hc d x n)
  have hentries : c.entries = [] := by
    unfold StartCall.entries
    split
    · rename_i d x n hd
      exact absurd hd (hc d x n)
    · rfl
  have hact : e.act s (.start i) = { e with
      hub := (c.step s e.hub).2.2, starts := e.starts.set i (c.step s e.hub).1 } := by
    simp only [Engine.act, Engine.moveStart, hi, hnone, Option.toList_none, List.append_nil]
  have hevent : e.event? s (.start i) = c.event? s i e.hub := by
    simp only [Engine.event?, hi, Option.bind_some]
  rw [hact, hevent]
  refine h.quiet hkept rfl (fun c hc => ⟨c, hc, rfl⟩) ?_ fun event he => ⟨?_, ?_⟩
  · rw [StartCall.notes_step hwilling fun d x n hd => absurd hd (hc d x n), hentries]
    exact List.append_nil _
  · refine Bool.eq_false_iff.mpr fun hfinal => ?_
    obtain ⟨d, x, n, hd⟩ := StartCall.stage_of_entry he (Event.isEntry_of_isFinal hfinal)
    exact hc d x n hd
  · rw [StartCall.event?_party he]
    intro n hn
    cases hn

-- Of an execution that is registered and has no run yet nothing is said.
theorem told_unentered {a : Int} {x : String} {n : Nat} (h : e.Logs s log child kept)
    (hs : e.Sound s log) (hregistered : .registered i a x n ∈ log)
    (hother : ∀ r ∈ e.runs, r.execution ≠ x) (hx : ¬Hurried log x) : e.hub.told x = [] := by
  obtain ⟨m, -, hname⟩ := hs.names _ _ _ _ hregistered
  rw [← hname] at hother hx ⊢
  refine h.silent m hother (fun c hc heq => ?_) hx
  rw [hname] at heq
  exact (hs.calls c hc).2 _ _ _ (heq ▸ hregistered)

-- Only one in a hurry can write an end that no run has come to.
theorem not_finalised_unentered {x : String} (hs : e.Sound s log)
    (hother : ∀ r ∈ e.runs, r.execution ≠ x) (hx : ¬Hurried log x) : ¬Finalised log x := by
  intro hfinal
  rcases hs.hub.lawful.recorded_or_overtaken hfinal with hr | ⟨before, after, k, a, t, rfl, ht, -⟩
  · obtain ⟨r, hr, heq⟩ := hs.recorded x hr
    exact hother r hr heq
  · exact hx ⟨k, a, t, by simp, ht⟩

-- What is said of a run that has just been entered is its first line.
theorem told_entered {hub : Hub} {a b : Int} {n : Nat} (h : e.Logs s log child kept)
    (hs : e.Sound s log) (hstage : r.stage = .preparing)
    (hregistered : .registered i a r.execution n ∈ log)
    (hother : ∀ r' ∈ e.runs, r'.execution ≠ r.execution) (hx : ¬Hurried log r.execution)
    (hnotes : hub.notes = e.hub.notes ++ [Bookkeeping.startLine r.subject].map NewLog.note)
    (habout : ∀ l ∈ [Bookkeeping.startLine r.subject], l.execution = some r.execution) :
    r.Told e.runs.length none (log ++ [.begun i b r.execution true]) (hub.told r.execution) := by
  have hfinal : ¬Finalised log r.execution := not_finalised_unentered hs hother hx
  refine ⟨?_, fun a y f hf => ?_, ?_⟩
  · rw [hstage]
    rfl
  · rcases List.mem_append.mp hf with hf | hf
    · exact absurd rfl (hs.of_absent (p := .run e.runs.length) (Nat.lt_irrefl _) _ hf)
    · cases List.mem_singleton.mp hf
  · rw [Hub.told_of_about hnotes habout, Run.stored, hstage,
      h.told_unentered hs hregistered hother hx]
    refine Tells.quiet (o := some (.begun i b r.execution true)) (.start (finals_eq_nil hfinal)) ?_
    simp [Event.isFinal]

-- A start that is entered says the first line of its run.
theorem moveStart_entered {c : StartCall} {d : Definition} {x : String} {n : Nat}
    (hs : e.Sound s log)
    (hfresh : (c.step s e.hub).2.2.Accords (log ++ (c.event? s i e.hub).toList))
    (h : e.Logs s log child kept) (hkept : ∀ j, kept' j → kept j) (hi : e.starts[i]? = some c)
    (hwilling : e.hub.site.shared.Willing) (hid : e.hub.has d.id = true)
    (hc : c.stage = .marking d x n) :
    (e.act s (.start i)).Logs s (log ++ (e.event? s (.start i)).toList)
      ((e.act s (.start i)).also child) kept' := by
  have haccords := hs.starts i c hi
  simp only [StartCall.Accords, hc] at haccords
  obtain ⟨-, hregistered, -⟩ := haccords
  let r : Run := StartCall.newRun d x n (s.clock e.hub.readings)
  have hstep := StartCall.step_entered (s := s) hc hwilling hid
  have hrun : (c.step s e.hub).2.1 = some r := by rw [hstep]
  have hnew : x ∉ e.runs.map (·.execution) := hs.new_run hi hrun hfresh
  have hother (r' : Run) (hr' : r' ∈ e.runs) : r'.execution ≠ x := fun hx =>
    hnew (List.mem_map.mpr ⟨r', hr', hx⟩)
  have hnotes : (c.step s e.hub).2.2.notes =
      e.hub.notes ++ [Bookkeeping.startLine r.subject].map NewLog.note := by
    rw [StartCall.notes_step hwilling fun d' x' n' hd => ?_]
    · simp only [StartCall.entries, hc]
      rfl
    · rw [hc] at hd
      cases hd
      exact hid
  have habout : ∀ l ∈ [Bookkeeping.startLine r.subject], l.execution = some x := by
    intro l hl
    rw [List.mem_singleton.mp hl]
    rfl
  have hact : e.act s (.start i) = { e with
      hub := (c.step s e.hub).2.2, starts := e.starts.set i (c.step s e.hub).1
      runs := e.runs ++ [r] } := by
    simp only [Engine.act, Engine.moveStart, hi, hrun, Option.toList_some]
  have hevent : e.event? s (.start i) = some (.begun i d.id x true) := by
    simp only [Engine.event?, hi, Option.bind_some, StartCall.event?, hc, hrun, Option.isSome_some]
  have hlaunched (j : Nat) (r' : Run) (hj : e.runs[j]? = some r') :
      (e.act s (.start i)).launched? j = r'.stage.child? := by
    rw [hact, launched?, List.getElem?_append_left (List.getElem?_eq_some_iff.mp hj).1, hj]
    rfl
  rw [hevent]
  refine ⟨fun m hr hcalls hm => ?_, fun j hj => ?_, fun j r' hj hk hm => ?_⟩
  · -- the new execution is not among those that nobody has entered
    rw [hact] at hr hcalls ⊢
    have hx : s.names m ≠ x := fun hx => hr r (List.mem_append_right _ (by simp)) hx.symm
    rw [Hub.told_of_others hnotes habout hx]
    exact h.silent m (fun r' hr' => hr r' (List.mem_append_left _ hr')) hcalls
      fun hh => hm hh.append
  · refine also_none (h.unborn j (Nat.le_trans ?_ hj)) hj
    rw [hact]
    simp
  · rw [hact] at hj
    have hm' : ¬Hurried log r'.execution := fun hh => hm hh.append
    rw [show (e.act s (.start i)).hub = (c.step s e.hub).2.2 by rw [hact]]
    rcases Nat.lt_or_ge j e.runs.length with hlt | hge
    · rw [List.getElem?_append_left hlt] at hj
      have hold := h.runs j r' hj (hkept j hk) hm'
      have hchild : (e.act s (.start i)).also child j = child j := by
        rw [also, hlaunched j r' hj]
        exact hold.fits.or_child
      rw [hchild, Hub.told_of_others hnotes habout (hother r' (List.mem_of_getElem? hj))]
      exact hold.quiet (o := some (.begun i d.id x true)) (by simp [Event.party])
        (by simp [Event.isFinal])
    · -- the new run
      have hlength : j = e.runs.length := by
        have := (List.getElem?_eq_some_iff.mp hj).1
        simp only [List.length_append, List.length_singleton] at this
        omega
      subst hlength
      rw [List.getElem?_concat_length] at hj
      cases hj
      have hchild : (e.act s (.start i)).also child e.runs.length = none := by
        rw [also, h.unborn _ (Nat.le_refl _), hact, launched?, List.getElem?_concat_length]
        rfl
      rw [hchild]
      exact h.told_entered hs rfl hregistered hother hm' hnotes habout

theorem idle (h : e.Logs s log child kept) (hkept : ∀ j, kept' j → kept j) (a : Action)
    (hact : e.act s a = e) (hevent : e.event? s a = none) :
    (e.act s a).Logs s (log ++ (e.event? s a).toList) ((e.act s a).also child) kept' := by
  rw [hact, hevent]
  exact h.quiet (o := none) hkept rfl (fun c hc => ⟨c, hc, rfl⟩) rfl nofun

theorem moveStart (fresh : Function.Injective s.names) (hs : e.Sound s log)
    (ha : e.Agrees rows log) (h : e.Logs s log child kept) (hkept : ∀ j, kept' j → kept j)
    (i : Nat) : (e.act s (.start i)).Logs s (log ++ (e.event? s (.start i)).toList)
      ((e.act s (.start i)).also child) kept' := by
  cases hi : e.starts[i]? with
  | none =>
      refine h.idle hkept (.start i) ?_ ?_
      · simp only [Engine.act, Engine.moveStart, hi]
      · simp only [Engine.event?, hi, Option.bind_none]
  | some c =>
      by_cases hmarking : ∃ d x n, c.stage = .marking d x n
      · obtain ⟨d, x, n, hc⟩ := hmarking
        have hhub := (hs.act fresh (.start i)).hub
        simp only [Engine.act, Engine.moveStart, Engine.event?, hi, Option.bind_some] at hhub
        have haccords := hs.starts i c hi
        simp only [StartCall.Accords, hc] at haccords
        have hid : e.hub.has d.id = true :=
          ha.has_iff.mpr (haccords.1 ▸ ha.known _ _ _ _ haccords.2.1)
        exact moveStart_entered hs hhub h hkept hi ha.willing hid hc
      · exact h.moveStart_idle hkept hi ha.willing fun d x n hc => hmarking ⟨d, x, n, hc⟩

-- ### Runs

theorem moveRun (hs : e.Sound s log) (ha : e.Agrees rows log) (hw : e.Waits log)
    (h : e.Logs s log child kept) (hkept : ∀ j, kept' j → kept j) (j : Nat) (m : RunMove)
    (hm : kept' j → ∀ error, m ≠ .lose error) :
    (e.act s (.run j m)).Logs s (log ++ (e.event? s (.run j m)).toList)
      ((e.act s (.run j m)).also child) kept' := by
  cases hj : e.runs[j]? with
  | none =>
      refine h.idle hkept (.run j m) ?_ ?_
      · simp only [Engine.act, Engine.moveRun, hj]
      · simp only [Engine.event?, hj, Option.bind_none]
  | some r =>
      have hlt : j < e.runs.length := (List.getElem?_eq_some_iff.mp hj).1
      have hid : e.hub.has r.spider.id = true := by
        obtain ⟨i, hi, -⟩ := (hs.runs j r hj).begun
        exact ha.has_iff.mpr (ha.known _ _ _ _ hi)
      have hact : e.act s (.run j m) =
          { e with hub := (r.step s m e.hub).2, runs := e.runs.set j (r.step s m e.hub).1 } := by
        simp only [Engine.act, Engine.moveRun, hj]
      have hevent : e.event? s (.run j m) = r.event? j e.hub := by
        simp only [Engine.event?, hj, Option.bind_some]
      have hother {x : String} (hx : x ≠ r.execution) :
          (r.step s m e.hub).2.told x = e.hub.told x := hs.told_run m hj ha.willing hid hx
      rw [hact, hevent]
      refine ⟨fun n hr hc hn => ?_, fun i hi => ?_, fun i r' hi hk hn => ?_⟩
      · have hx : s.names n ≠ r.execution := (hr _ (List.mem_set hlt _)).symm
        rw [hother hx]
        refine h.silent n (fun r' hr' => ?_) hc fun hh => hn hh.append
        obtain ⟨i, hi⟩ := List.getElem?_of_mem hr'
        by_cases hij : i = j
        · subst hij
          cases hi.symm.trans hj
          exact hx.symm
        · refine hr r' (List.mem_of_getElem? (i := i) ?_)
          rwa [List.getElem?_set_ne (Ne.symm hij)]
      · refine also_none (h.unborn i ?_) hi
        rwa [List.length_set] at hi
      · have hn' : ¬Hurried log r'.execution := fun hh => hn hh.append
        by_cases hij : i = j
        · subst hij
          rw [List.getElem?_set_self hlt] at hi
          cases hi
          have hold := h.runs i r hj (hkept i hk) hn'
          have halso : Engine.also { e with
              hub := (r.step s m e.hub).2, runs := e.runs.set i (r.step s m e.hub).1 } child i =
              (child i).or (r.step s m e.hub).1.stage.child? := by
            rw [also, launched?, List.getElem?_set_self hlt]
            rfl
          rw [halso]
          by_cases hclaimed : ∃ f, r.stage = .claimed f
          · obtain ⟨f, hf⟩ := hclaimed
            rw [Run.child?_of_closed (by rw [hf]; rfl), Option.or_none]
            exact hs.told_claimed hj hf ha.willing hid hold
          · exact hs.told_onward hw hj (fun f hf => hclaimed ⟨f, hf⟩) ha.willing hid (hm hk) hn'
              hold
        · rw [List.getElem?_set_ne (Ne.symm hij)] at hi
          have hx : r'.execution ≠ r.execution := by
            intro hx
            have hget : (e.runs.map (·.execution))[i]? = (e.runs.map (·.execution))[j]? := by
              simp [hi, hj, hx]
            have hlt' : i < (e.runs.map (·.execution)).length := by
              simpa using (List.getElem?_eq_some_iff.mp hi).1
            exact hij ((List.getElem?_inj hlt' hs.distinct).mp hget)
          have hold := h.runs i r' hi (hkept i hk) hn'
          have halso : Engine.also { e with
              hub := (r.step s m e.hub).2, runs := e.runs.set j (r.step s m e.hub).1 } child i =
              child i := by
            rw [also, launched?, List.getElem?_set_ne (Ne.symm hij), hi]
            exact hold.fits.or_child
          rw [halso, hother hx]
          refine hold.quiet (fun event he => ?_) fun event he hex => ?_
          · rw [Run.event?_party he]
            exact fun hp => hij (by cases hp; rfl)
          · exact absurd (hex.symm.trans (Run.event?_execution he)) hx

-- ### Requests to stop

theorem moveStop (hs : e.Sound s log) (ha : e.Agrees rows log) (hw : e.Waits log)
    (h : e.Logs s log child kept) (hkept : ∀ j, kept' j → kept j)
    (readable : ∀ a, ∃ found, e.hub.site.shared.store.spider? a = .ok found) (k : Nat)
    (m : StopMove) : (e.act s (.stop k m)).Logs s (log ++ (e.event? s (.stop k m)).toList)
      ((e.act s (.stop k m)).also child) kept' := by
  cases hk : e.stops[k]? with
  | none =>
      refine h.idle hkept (.stop k m) ?_ ?_
      · simp only [Engine.act, Engine.moveStop, hk]
      · simp only [Engine.event?, hk, Option.bind_none]
  | some c =>
      have hact : e.act s (.stop k m) =
          { e with hub := (c.step s m e.hub).2, stops := e.stops.set k (c.step s m e.hub).1 } := by
        simp only [Engine.act, Engine.moveStop, hk]
      have hevent : e.event? s (.stop k m) = c.event? k m e.hub := by
        simp only [Engine.event?, hk, Option.bind_some]
      rw [hact, hevent]
      by_cases hmarking : ∃ t, c.stage = .marking t
      · obtain ⟨t, ht⟩ := hmarking
        have haccords := hs.stops k c hk
        simp only [StopCall.Accords, ht] at haccords
        obtain ⟨i, hi⟩ := hs.hub.lawful.registered_of_granted haccords.1
        obtain ⟨message, hnotes⟩ := StopCall.notes_marking (s := s) m ht ha.willing
          (ha.has_iff.mpr (ha.known _ _ _ _ hi)) (readable c.spider)
        have habout : ∀ n ∈ [(⟨c.spider, .warning, .spiderRunner, message,
            some t.execution⟩ : NewLog)], n.execution = some t.execution := by simp
        rw [show c.event? k m e.hub = some (.stopped k c.spider t.execution) by
          simp only [StopCall.event?, ht]]
        refine h.frame hkept rfl (fun c hc => ⟨c, hc, rfl⟩) (fun n hr _ hn => ?_)
          fun j r hj hn hold => ?_
        · -- the task of the execution has signed off, so there is one
          refine Hub.told_of_others hnotes habout fun hx => ?_
          rcases hw.marking c (List.mem_of_getElem? hk) t ht with hh | ⟨r, hr', hx', -⟩
          · exact hn (hx ▸ hh)
          · exact hr r hr' (hx'.trans hx.symm)
        · by_cases hx : r.execution = t.execution
          · obtain ⟨i', hi', -⟩ := (hs.runs j r hj).begun
            obtain ⟨-, hspider, -⟩ := hs.hub.lawful.registered_unique (hx ▸ hi') hi
            refine ⟨hold.fits, fun a x f hm => ?_, ?_⟩
            · rcases List.mem_append.mp hm with hm | hm
              · exact hold.settled a x f hm
              · cases List.mem_singleton.mp hm
            · rw [hx, Hub.told_of_about hnotes habout, ← hx, ← hspider]
              exact hold.tells.close rfl rfl message
          · rw [Hub.told_of_others hnotes habout hx]
            exact hold.quiet (o := some (.stopped k c.spider t.execution)) (by simp [Event.party])
              (by simpa [Event.execution] using fun hh => absurd hh.symm hx)
      · have hidle (t : StopTicket) (ht : c.stage = .marking t) : False := hmarking ⟨t, ht⟩
        refine h.quiet hkept rfl (fun c hc => ⟨c, hc, rfl⟩)
          (StopCall.notes_step m fun t ht => hidle t ht) fun event he => ⟨?_, ?_⟩
        · refine Bool.eq_false_iff.mpr fun hfinal => ?_
          obtain ⟨t, ht⟩ := StopCall.stage_of_entry he (Event.isEntry_of_isFinal hfinal)
          exact hidle t ht
        · rw [StopCall.event?_party he]
          intro n hn
          cases hn

-- ### Direct calls

theorem moveCall (hs : e.Sound s log) (h : e.Logs s log child kept)
    (hkept : ∀ j, kept' j → kept j) (i : Nat) (m : DirectMove) :
    (e.act s (.call i m)).Logs s (log ++ (e.event? s (.call i m)).toList)
      ((e.act s (.call i m)).also child) kept' := by
  cases hi : e.calls[i]? with
  | none =>
      refine h.idle hkept (.call i m) ?_ rfl
      simp only [Engine.act, Engine.moveCall, hi]
  | some c =>
      have hmem : c ∈ e.calls := List.mem_of_getElem? hi
      have hact : e.act s (.call i m) =
          { e with hub := (c.step s m e.hub).2, calls := e.calls.set i (c.step s m e.hub).1 } := by
        simp only [Engine.act, Engine.moveCall, hi]
      obtain ⟨ns, hnotes, habout⟩ := DirectCall.notes_step (s := s) c m e.hub
      rw [hact, show e.event? s (.call i m) = none from rfl]
      refine h.frame (o := none) hkept rfl (fun c' hc' => ?_) (fun n _ hc _ => ?_)
        fun j r hj _ hold => ?_
      · obtain ⟨i', hi'⟩ := List.getElem?_of_mem hc'
        by_cases hii : i' = i
        · subst hii
          cases hi'.symm.trans hi
          exact ⟨_, List.mem_set (List.getElem?_eq_some_iff.mp hi).1 _, rfl⟩
        · refine ⟨c', List.mem_of_getElem? (i := i') ?_, rfl⟩
          rwa [List.getElem?_set_ne (Ne.symm hii)]
      · exact Hub.told_of_others hnotes habout (hc c hmem).symm
      · have hx : r.execution ≠ c.execution := by
          intro hx
          obtain ⟨i', hi', -⟩ := (hs.runs j r hj).begun
          exact (hs.calls c hmem).2 _ _ _ (hx ▸ hi')
        rw [Hub.told_of_others hnotes habout hx]
        exact hold.quiet (o := none) (fun ev hev => by cases hev) fun ev hev => by cases hev

-- ### After every interleaving

theorem init (site : Site)
    (unused : ∀ row ∈ site.shared.store.logs, ∀ n, row.execution ≠ some (s.names n)) :
    (ofSite site).Logs s [] (fun j => (ofSite site).child? s j []) kept where
  silent n _ _ _ := by
    refine List.filter_eq_nil_iff.mpr fun note hnote => ?_
    obtain ⟨row, hrow, rfl⟩ := List.mem_map.mp hnote
    have hne : row.execution ≠ some (s.names n) := unused row hrow n
    simpa [LogRow.read, LogEntry.note] using hne
  unborn j _ := rfl
  runs j r hj := by cases hj

theorem act (fresh : Function.Injective s.names) (hs : e.Sound s log) (ha : e.Agrees rows log)
    (hw : e.Waits log) (h : e.Logs s log child kept) (hkept : ∀ j, kept' j → kept j)
    (readable : ∀ a, ∃ found, e.hub.site.shared.store.spider? a = .ok found) (a : Action)
    (hlose : ∀ j, kept' j → ∀ error, a ≠ .run j (.lose error)) :
    (e.act s a).Logs s (log ++ (e.event? s a).toList) ((e.act s a).also child) kept' := by
  cases a with
  | askStart spider | askStop spider | askWait spider | wait i =>
      exact h.quiet (o := none) hkept rfl (fun c hc => ⟨c, hc, rfl⟩) rfl nofun
  | askCall spider code =>
      exact h.quiet (o := none) hkept rfl
        (fun c hc => ⟨c, List.mem_append_left _ hc, rfl⟩) rfl nofun
  | start i => exact h.moveStart fresh hs ha hkept i
  | run j m =>
      refine h.moveRun hs ha hw hkept j m fun hj error hm => ?_
      exact hlose j hj error (by rw [hm])
  | stop k m => exact h.moveStop hs ha hw hkept readable k m
  | call i m => exact h.moveCall hs hkept i m

end Engine.Logs

theorem Engine.logs (fresh : Function.Injective s.names) (site : Site) (actions : List Action)
    (willing : site.shared.Willing)
    (readable : ∀ before after, actions = before ++ after → ∀ a, ∃ found,
      ((ofSite site).perform s before).hub.site.shared.store.spider? a = .ok found)
    (unused : ∀ row ∈ site.shared.store.logs, ∀ n, row.execution ≠ some (s.names n)) :
    ((ofSite site).perform s actions).Logs s ((ofSite site).history s actions)
      (fun j => (ofSite site).child? s j actions)
      (fun j => ∀ error, .run j (.lose error) ∉ actions) := by
  induction actions using List.reverseRecOn with
  | nil => exact Logs.init site unused
  | append_singleton actions action ih =>
      have hprefix : ∀ before after, actions = before ++ after → ∀ a, ∃ found,
          ((ofSite site).perform s before).hub.site.shared.store.spider? a = .ok found := by
        intro before after h
        refine readable before (after ++ [action]) ?_
        rw [h, List.append_assoc]
      rw [perform_append, history_concat]
      simp only [child?_concat]
      refine (ih hprefix).act fresh (sound fresh site actions)
        (agrees fresh site actions willing hprefix) (waits fresh site actions)
        (fun j hj error hm => hj error (List.mem_append_left _ hm))
        (readable actions [action] rfl) action fun j hj error ha => ?_
      exact hj error (List.mem_append_right _ (by simp [ha]))

-- ### The log of a run that has been released

-- The last line of a run is about its end, or about the request that has claimed it.
theorem Engine.Sound.last_level {child : Option Child} {told : List Note} (hs : e.Sound s log)
    (hj : e.runs[j]? = some r) (htold : r.Told j child log told)
    (hf : Finalised log r.execution) : ∃ level, finals log r.execution = [level] ∧
      (Granted log r.execution → level = .warning) ∧
      (¬Granted log r.execution → ∃ f : RunEnd, f.isStopped = false ∧ f.Fits child ∧
        f.level = level) := by
  have hl := hs.hub.lawful
  obtain ⟨event, hm, hfinal, hx⟩ := hf
  cases event with
  | settled i a x f =>
      cases hx
      have hclaimed := hl.claimed_of_settled hm
      have hi : i = j := hs.sole hj hclaimed
      obtain ⟨before, after, -, -, -, hkind, -⟩ := hl.exists_allowed hm
      refine ⟨f.level, hl.finals_eq hm rfl, fun hg => ?_, fun _ => ⟨f, hkind, ?_, rfl⟩⟩
      · exact absurd hg (hl.not_granted_of_claimed ⟨i, a, hclaimed⟩)
      · exact htold.settled a _ f (hi ▸ hm)
  | stopped k a x =>
      cases hx
      obtain ⟨t, hg, -, ht⟩ := hl.granted_of_stopped hm
      refine ⟨.warning, hl.finals_eq hm rfl, fun _ => rfl, fun hn => ?_⟩
      exact absurd ⟨k, a, t, hg, ht⟩ hn
  | _ => cases hfinal

-- `launched`: the start, one line for every line of the output that is not blank, one for every
-- such line of the errors, and the end. `unlaunched`: without a process, the start and the end.
-- `saving`: a stream that cannot be saved as a file changes nothing of that.
structure Engine.TracesRun (s : Setup) (e : Engine) (actions : List Action) (j : Nat) (r : Run) :
    Prop where
  launched : ∀ c, e.child? s j actions = some c → ∃ level message,
    ((e.perform s actions).hub.store.executionLogs r.execution).map LogEntry.note =
      ([Bookkeeping.startLine r.subject] ++
        (logLines (Utf8.lenient c.output)).map
          (lineEntry r.spider.id r.execution .info .spiderOutput) ++
        (logLines (Utf8.lenient c.errors)).map
          (lineEntry r.spider.id r.execution .error .spiderError) ++
        [Bookkeeping.line r.subject level .spiderRunner message]).map NewLog.note ∧
    (Granted (e.history s actions) r.execution → level = .warning) ∧
    (¬Granted (e.history s actions) r.execution → ∃ ending, c.course.byItself = some ending ∧
      level = if ending.code = 0 then .info else .error)
  unlaunched : e.child? s j actions = none → ∃ level message,
    ((e.perform s actions).hub.store.executionLogs r.execution).map LogEntry.note =
      [Bookkeeping.startLine r.subject,
        Bookkeeping.line r.subject level .spiderRunner message].map NewLog.note ∧
    (Granted (e.history s actions) r.execution → level = .warning) ∧
    (¬Granted (e.history s actions) r.execution → level = .error)
  saving : ∀ before after m r' p stream text rest f, actions = before ++ .run j m :: after →
    (e.perform s before).runs[j]? = some r' →
    r'.stage = .saving p (.stream stream text :: rest) f →
    (e.perform s (before ++ [.run j m])).runs[j]? = some { r' with stage := .saving p rest f } ∧
    ((e.perform s (before ++ [.run j m])).hub.store.executionLogs r.execution).map LogEntry.note =
      ((e.perform s before).hub.store.executionLogs r.execution).map LogEntry.note

theorem Engine.Agrees.saving_stream {m : RunMove} {p : Stored} {stream : Stream} {text : String}
    {rest : List Chore} {f : RunEnd} (hs : e.Sound s log) (ha : e.Agrees rows log)
    (hj : e.runs[j]? = some r) (hr : r.stage = .saving p (.stream stream text :: rest) f)
    (x : String) : (e.act s (.run j m)).runs[j]? = some { r with stage := .saving p rest f } ∧
      (e.act s (.run j m)).hub.told x = e.hub.told x := by
  obtain ⟨i, hi, -⟩ := (hs.runs j r hj).begun
  have hid : e.hub.has r.spider.id = true := ha.has_iff.mpr (ha.known _ _ _ _ hi)
  obtain ⟨hstep, hnotes⟩ := Run.step_stream (s := s) m hr ha.willing hid
  simp only [Engine.act, Engine.moveRun, hj]
  constructor
  · rw [List.getElem?_set_self (List.getElem?_eq_some_iff.mp hj).1, hstep]
  · rw [Hub.told, hnotes, Hub.told]

theorem Engine.log_traced (fresh : Function.Injective s.names) (site : Site)
    (actions : List Action) (willing : site.shared.Willing)
    (readable : ∀ before after, actions = before ++ after → ∀ a, ∃ found,
      ((ofSite site).perform s before).hub.site.shared.store.spider? a = .ok found)
    (unused : ∀ row ∈ site.shared.store.logs, ∀ n, row.execution ≠ some (s.names n))
    (hj : ((ofSite site).perform s actions).runs[j]? = some r)
    (kept : ∀ error, .run j (.lose error) ∉ actions)
    (patient : ∀ k a t, .expired k a t ∈ (ofSite site).history s actions →
      t.execution ≠ r.execution)
    (released : (r.signals ((ofSite site).perform s actions).hub).released = true ∨
      ((ofSite site).perform s actions).hub.registry.own? r.spider.id r.execution = none) :
    (ofSite site).TracesRun s actions j r := by
  have hs := Engine.sound fresh site actions
  have hpatient : ¬Hurried ((ofSite site).history s actions) r.execution := by
    rintro ⟨k, a, t, hm, hx⟩
    exact patient k a t hm hx
  have htold := (Engine.logs fresh site actions willing readable unused).runs j r hj kept hpatient
  have hfinalised : Finalised ((ofSite site).history s actions) r.execution := by
    obtain ⟨i, hi, hb⟩ := (hs.runs j r hj).begun
    refine hs.finalised_of_freed ⟨i, _, hb⟩ ?_
    rcases released with hn | hown
    · exact hs.freed_of_released hi hn
    · rcases hs.hub.reflects.live_or_freed _ _ _ _ hi with ⟨g, hg, hgs, hgx, -⟩ | hf
      · exact absurd hgx ((Registry.own?_eq_none_iff hs.hub.reflects.sole).mp hown g hg hgs)
      · exact hf
  have hclosed : r.stage.isOpen = false := Bool.eq_false_iff.mpr fun ho =>
    hs.not_finalised (Engine.waits fresh site actions) hj ho hpatient hfinalised
  obtain ⟨level, hfinals, hgranted, hsettled⟩ := hs.last_level hj htold hfinalised
  -- all the lines are stored, and there is one after them
  have hlog : ∃ message,
      (((ofSite site).perform s actions).hub.store.executionLogs r.execution).map LogEntry.note =
        (Bookkeeping.startLine r.subject :: r.linesOf ((ofSite site).child? s j actions) ++
          [Bookkeeping.line r.subject level .spiderRunner message]).map NewLog.note := by
    obtain ⟨closing, htells, hclosing⟩ := htold.tells
    rw [Run.stored_of_closed hclosed] at htells
    rw [show r.subject.execution = r.execution from rfl, hfinals] at hclosing
    obtain ⟨message, hmessage⟩ : ∃ message,
        closing = [Bookkeeping.line r.subject level .spiderRunner message] := by
      cases hclosing with
      | cons hentry hrest =>
          obtain ⟨message, rfl⟩ := hentry
          cases hrest
          exact ⟨message, rfl⟩
    refine ⟨message, ?_⟩
    rw [Store.executionLogs_note, ← hmessage]
    exact htells
  obtain ⟨message, hlog⟩ := hlog
  refine ⟨fun c hc => ⟨level, message, ?_, hgranted, fun hn => ?_⟩,
    fun hnone => ⟨level, message, ?_, hgranted, fun hn => ?_⟩, ?_⟩
  · rw [hlog, hc]
    simp only [Run.linesOf, lineEntries, List.nil_append, List.cons_append, List.append_assoc]
  · obtain ⟨f, hkind, hfits, rfl⟩ := hsettled hn
    rw [hc] at hfits
    cases f with
    | exited o =>
        obtain ⟨c', ending, hc', hending, rfl⟩ := hfits
        cases hc'
        exact ⟨ending, hending, rfl⟩
    | stopped => cases hkind
    | failed error => cases hfits
  · rw [hlog, hnone]
    rfl
  · obtain ⟨f, hkind, hfits, rfl⟩ := hsettled hn
    rw [hnone] at hfits
    cases f with
    | exited o =>
        obtain ⟨c', ending, hc', -⟩ := hfits
        cases hc'
    | stopped => cases hkind
    | failed error => rfl
  · rintro before after m r' p stream text rest f rfl hj' hr'
    have hagrees := Engine.agrees fresh site before willing fun first last h => by
      refine readable first (last ++ .run j m :: after) ?_
      rw [h, List.append_assoc]
    rw [Store.executionLogs_note, Store.executionLogs_note, perform_append]
    exact hagrees.saving_stream (Engine.sound fresh site before) hj' hr' r.execution

-- What it launches writes to both of its streams.
def Setup.vocal : Setup := { Setup.small with
  platform := fun _ _ => .ok ⟨[104, 105, 10, 10, 32, 104, 111, 10], [110, 111], [],
    .ends (.exited 0)⟩ }

-- A spider whose rules do not say what to fetch, a spider that is a script, and no directory that
-- the logs of streams could be saved in.
def Site.duet : Site :=
  ⟨⟨[(["logs"], .file []), (["scripts"], .directory)]⟩, .ofStore { Store.empty with spiders :=
    [⟨1, "one", none, "", Status.inactive.name, "\x7b\"type\":\"rules\"\x7d", none, 0, 0, 0⟩,
      ⟨2, "two", none, "", Status.inactive.name, "", none, 0, 0, 0⟩] }⟩

-- A run that is over before there is a process, and one that has a process.
def Engine.duet : List Action :=
  [.askStart 1, .askStart 2] ++ (List.replicate 4 [.start 0, .start 1]).flatten ++
    List.replicate 4 (.run 0 .onward) ++ List.replicate 15 (.run 1 .onward)

theorem Engine.duet_readable : ∀ n < 30,
    ((ofSite Site.duet).perform Setup.vocal (duet.take n)).hub.rows.all (·.read.isOk) = true := by
  decide +kernel

theorem Engine.log_traced_duet : Function.Injective Setup.vocal.names ∧
    Site.duet.shared.Willing ∧
    ((ofSite Site.duet).perform Setup.vocal duet).hub.notes.map
      (fun n => (n.level, n.source, n.message)) =
      [(.info, some .spiderRunner, "Spider \"one\" started with execution ID: "),
        (.info, some .spiderRunner, "Spider \"two\" started with execution ID: x"),
        (.error, some .spiderRunner, "Spider \"one\" execution failed: Code synthesis failed: " ++
          "Invalid extraction rules: ruleset has no target url"),
        (.info, some .spiderOutput, "hi"), (.info, some .spiderOutput, "ho"),
        (.error, some .spiderError, "no"),
        (.info, some .spiderRunner, "Spider \"two\" completed successfully in 7.00s")] ∧
    (ofSite Site.duet).child? Setup.vocal 0 duet = none ∧
    ((ofSite Site.duet).child? Setup.vocal 1 duet).isSome = true ∧
    ∀ j < 2, ∃ r, ((ofSite Site.duet).perform Setup.vocal duet).runs[j]? = some r ∧
      (ofSite Site.duet).TracesRun Setup.vocal duet j r := by
  have fresh : Function.Injective Setup.vocal.names := Setup.small_names
  have willing : Site.duet.shared.Willing := ⟨fun _ _ => rfl, rfl⟩
  have hreleased : ∀ j < 2, (((ofSite Site.duet).perform Setup.vocal duet).runs[j]?).map
      (fun r => (r.signals ((ofSite Site.duet).perform Setup.vocal duet).hub).released) =
        some true := by
    decide +kernel
  have hpatient : ((ofSite Site.duet).history Setup.vocal duet).all
      (fun event => match event with
        | .expired _ _ _ => false
        | _ => true) = true := by
    decide +kernel
  refine ⟨fresh, willing, by decide +kernel, by decide +kernel, by decide +kernel,
    fun j hj => ?_⟩
  obtain ⟨r, hr, hsignals⟩ := Option.map_eq_some_iff.mp (hreleased j hj)
  have htraced := log_traced (s := Setup.vocal) (j := j) (r := r) fresh Site.duet duet willing
  refine ⟨r, hr, htraced ?_ ?_ hr ?_ ?_ (.inl hsignals)⟩
  · intro before after h a
    refine Store.spider?_of_readable (fun row hrow => ?_) a
    have hlength : before.length < 30 := by
      have := congrArg List.length h
      simp [duet] at this
      omega
    have hall := duet_readable before.length hlength
    rw [h, List.take_left] at hall
    have hok := List.all_eq_true.mp hall row hrow
    cases hread : row.read with
    | ok x => exact ⟨x, rfl⟩
    | error e =>
      rw [hread] at hok
      cases hok
  · intro row hrow
    cases hrow
  · simp [duet]
  · intro k a t hm
    cases List.all_eq_true.mp hpatient _ hm

end Spiderworks
