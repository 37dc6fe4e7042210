import Spiderworks.Proofs.Registry.Cell
import Spiderworks.Proofs.Registry.Lookup

namespace Spiderworks

namespace Registry

def answer (r : Registry) : Call → Answer × Registry
  | .register a x =>
    match r.register a x with
    | some (_, r) => (.done true, r)
    | none => (.done false, r)
  | .attach a x pid => (.nothing, r.attach a x pid)
  | .beginStop a =>
    match r.beginStop a with
    | some (t, r) => (.ticket (some (t.execution, t.initiator)), r)
    | none => (.ticket none, r)
  | .beginFinish a x =>
    match r.beginFinish a x with
    | some r => (.done true, r)
    | none => (.done false, r)
  | .remove a x =>
    match r.remove a x with
    | some r => (.done true, r)
    | none => (.done false, r)

def perform (r : Registry) (calls : List Call) : Registry :=
  calls.foldl (fun r c => (r.answer c).2) r

def trace (r : Registry) : List Call → List (Call × Answer)
  | [] => []
  | c :: rest => (c, (r.answer c).1) :: trace (r.answer c).2 rest

end Registry

-- What can be seen of a registration, and of the place of a spider.
def Registration.cell (g : Registration) : Cell :=
  match g.phase with
  | .running => .running g.execution g.pid
  | .stopping => .stopping g.execution g.pid
  | .finishing => .finishing g.execution g.pid

theorem Registration.cell_ne_idle (g : Registration) : g.cell ≠ .idle := by
  unfold cell
  split <;> exact nofun

theorem Registration.cell_execution? (g : Registration) : g.cell.execution? = some g.execution := by
  unfold cell
  split <;> rfl

namespace Registry

def cell (r : Registry) (a : Int) : Cell := ((r.find? a).map Registration.cell).getD .idle

variable {r : Registry} {a b : Int} {x : String} {c : Call}

theorem cell_of_find? {g : Registration} (h : r.find? a = some g) : r.cell a = g.cell := by
  rw [cell, h]
  rfl

theorem cell_of_none (h : r.find? a = none) : r.cell a = .idle := by
  rw [cell, h]
  rfl

theorem cell_eq_idle_iff : r.cell a = .idle ↔ r.find? a = none := by
  cases h : r.find? a with
  | none => simp [cell_of_none h]
  | some g => simp [cell_of_find? h, g.cell_ne_idle]

-- ### What is found after an operation

theorem find?_change {f : Registration → Registration} (hf : ∀ g, (f g).spider = g.spider) :
    (r.change a f).find? b = if b = a then (r.find? a).map f else r.find? b := by
  let h (g : Registration) : Registration := if g.spider = a then f g else g
  have hspider (g : Registration) : (h g).spider = g.spider := by
    simp only [h]
    split
    · exact hf g
    · rfl
  have hfind : (r.change a f).find? b = (r.find? b).map h := by
    rw [find?, change, List.find?_map]
    have hp : (fun g : Registration => g.spider == b) ∘ h = fun g => g.spider == b := by
      funext g
      simp [hspider]
    rw [hp]
    rfl
  rw [hfind]
  cases hb : r.find? b with
  | none =>
      split
      · rename_i hba
        rw [← hba, hb]
        rfl
      · rfl
  | some g =>
      have hg := (mem_of_find? hb).2
      split
      · rename_i hba
        rw [← hba, hb]
        simp [h, hg, hba]
      · rename_i hba
        simp [h, hg, hba]

theorem find?_live_concat {g : Registration} (h : r.find? g.spider = none)
    (signals : List Signals) :
    Registry.find? ⟨r.live ++ [g], signals⟩ b = if b = g.spider then some g else r.find? b := by
  simp only [find?, List.find?_append, List.find?_singleton, beq_iff_eq] at h ⊢
  by_cases hb : b = g.spider
  · subst hb
    simp [h]
  · simp [hb, Ne.symm hb]

theorem find?_live_filter (signals : List Signals) :
    Registry.find? ⟨r.live.filter (·.spider != a), signals⟩ b =
      if b = a then none else r.find? b := by
  by_cases hb : b = a
  · subst hb
    simp [find?, List.find?_filter]
  · rw [if_neg hb, find?, List.find?_filter, find?]
    congr 1
    funext g
    by_cases hg : g.spider = b
    · simp [hg, hb]
    · simp [hg]

-- ### One call

-- A call changes the automaton of its own spider and answers as that one does.
structure Answers (r : Registry) (c : Call) : Prop where
  answer : (r.answer c).1 = ((r.cell c.spider).answer c).1
  own : (r.answer c).2.cell c.spider = ((r.cell c.spider).answer c).2
  others : ∀ b, b ≠ c.spider → (r.answer c).2.cell b = r.cell b

-- A call that does nothing.
theorem Answers.idle (answer : Answer) (hr : r.answer c = (answer, r))
    (hc : (r.cell c.spider).answer c = (answer, r.cell c.spider)) : r.Answers c := by
  refine ⟨?_, ?_, fun b _ => ?_⟩
  · rw [hr, hc]
  · rw [hr, hc]
  · rw [hr]

-- A call that changes the registration of its spider.
theorem Answers.change (answer : Answer) (f : Registration → Registration) {g : Registration}
    (hf : ∀ g, (f g).spider = g.spider) (hg : r.find? c.spider = some g)
    (hr : r.answer c = (answer, r.change c.spider f))
    (hc : (r.cell c.spider).answer c = (answer, (f g).cell)) : r.Answers c := by
  refine ⟨?_, ?_, fun b hb => ?_⟩
  · rw [hr, hc]
  · rw [hr, hc, cell, find?_change hf, if_pos rfl, hg]
    rfl
  · rw [hr, cell, find?_change hf, if_neg hb, cell]

theorem answers_register (r : Registry) (a : Int) (x : String) : r.Answers (.register a x) := by
  cases h : r.find? a with
  | none =>
      have hr : r.answer (.register a x) = (.done true,
          ⟨r.live ++ [⟨a, x, .running, none, r.signals.length⟩], r.signals ++ [.fresh]⟩) := by
        simp [answer, register, contains, h]
      have hfind (b : Int) := find?_live_concat (b := b)
        (g := ⟨a, x, .running, none, r.signals.length⟩) h (r.signals ++ [.fresh])
      refine ⟨?_, ?_, fun b hb => ?_⟩
      · rw [hr, Call.spider, cell_of_none h]
        rfl
      · rw [hr, Call.spider, cell_of_none h, cell, hfind, if_pos rfl]
        rfl
      · rw [Call.spider] at hb
        rw [hr, cell, hfind, if_neg hb, cell]
  | some g =>
      refine .idle (.done false) (by simp [answer, register, contains, h]) ?_
      rw [Call.spider, cell_of_find? h]
      unfold Registration.cell
      split <;> rfl

-- A call that names an execution finds the registration of that execution, or none.
theorem own?_cases (r : Registry) (a : Int) (x : String) :
    (r.own? a x = none ∧ (r.cell a).execution? ≠ some x) ∨
      ∃ g, r.find? a = some g ∧ r.own? a x = some g ∧ (r.cell a).execution? = some x := by
  cases h : r.find? a with
  | none =>
      refine .inl ⟨by simp [own?, h], ?_⟩
      rw [cell_of_none h]
      intro hx
      cases hx
  | some g =>
      have he : (r.cell a).execution? = some g.execution := by
        rw [cell_of_find? h, g.cell_execution?]
      by_cases hx : g.execution = x
      · exact .inr ⟨g, rfl, by simp [own?, h, hx], by rw [he, hx]⟩
      · exact .inl ⟨by simp [own?, h, hx], by rw [he]; simpa using hx⟩

theorem answers_attach (r : Registry) (a : Int) (x : String) (pid : Option Nat) :
    r.Answers (.attach a x pid) := by
  rcases r.own?_cases a x with ⟨hown, hx⟩ | ⟨g, hg, hown, hx⟩
  · refine .idle .nothing (by simp [answer, attach, hown]) ?_
    rw [Call.spider, Cell.answer, if_neg hx]
  · refine .change .nothing (fun e => { e with pid := pid }) (fun _ => rfl) hg
      (by simp [answer, attach, hown, Call.spider]) ?_
    rw [Call.spider, Cell.answer, if_pos hx, cell_of_find? hg]
    cases hp : g.phase <;> simp [Registration.cell, hp, Cell.setPid]

theorem answers_beginStop (r : Registry) (a : Int) : r.Answers (.beginStop a) := by
  cases h : r.find? a with
  | none =>
      refine .idle (.ticket none) (by simp [answer, beginStop, h]) ?_
      rw [Call.spider, cell_of_none h]
      rfl
  | some g =>
      by_cases hp : g.phase = .finishing
      · have hcell : r.cell a = .finishing g.execution g.pid := by
          rw [cell_of_find? h, Registration.cell, hp]
        refine .idle (.ticket none)
          (by simp [answer, beginStop, h, hp, Phase.acceptsStop]) ?_
        rw [Call.spider, hcell]
        rfl
      · refine .change (.ticket (some (g.execution, g.phase == .running)))
          (fun e => { e with phase := .stopping }) (fun _ => rfl) h
          (by simp [answer, beginStop, h, hp, Phase.acceptsStop, Call.spider]) ?_
        rw [Call.spider, cell_of_find? h]
        cases hp' : g.phase with
        | finishing => exact absurd hp' hp
        | _ => simp [Registration.cell, hp', Cell.answer]

theorem answers_beginFinish (r : Registry) (a : Int) (x : String) :
    r.Answers (.beginFinish a x) := by
  rcases r.own?_cases a x with ⟨hown, hx⟩ | ⟨g, hg, hown, hx⟩
  · refine .idle (.done false) (by simp [answer, beginFinish, hown]) ?_
    rw [Call.spider]
    cases hc : r.cell a with
    | running y pid =>
        have hne : y ≠ x := by simpa [hc, Cell.execution?] using hx
        simp [Cell.answer, hne]
    | _ => rfl
  · have hgx : g.execution = x := by simpa [cell_of_find? hg, g.cell_execution?] using hx
    by_cases hp : g.phase = .running
    · refine .change (.done true) (fun e => { e with phase := .finishing })
        (fun _ => rfl) hg (by simp [answer, beginFinish, hown, hp, Call.spider]) ?_
      rw [Call.spider, cell_of_find? hg]
      simp [Registration.cell, hp, Cell.answer, hgx]
    · refine .idle (.done false) (by simp [answer, beginFinish, hown, hp]) ?_
      rw [Call.spider, cell_of_find? hg]
      cases hp' : g.phase with
      | running => exact absurd hp' hp
      | _ => simp [Registration.cell, hp', Cell.answer]

theorem answers_remove (r : Registry) (a : Int) (x : String) : r.Answers (.remove a x) := by
  rcases r.own?_cases a x with ⟨hown, hx⟩ | ⟨g, hg, hown, hx⟩
  · refine .idle (.done false) (by simp [answer, remove, hown]) ?_
    rw [Call.spider, Cell.answer, if_neg hx]
  · have hr : r.answer (.remove a x) = (.done true,
        Registry.release { r with live := r.live.filter (·.spider != a) } g.number) := by
      simp [answer, remove, hown]
    have hfind (b : Int) : Registry.find?
        (Registry.release { r with live := r.live.filter (·.spider != a) } g.number) b =
          if b = a then none else r.find? b := find?_live_filter _
    refine ⟨?_, ?_, fun b hb => ?_⟩
    · rw [hr, Call.spider, Cell.answer, if_pos hx]
    · rw [hr, Call.spider, Cell.answer, if_pos hx, cell, hfind, if_pos rfl]
      rfl
    · rw [Call.spider] at hb
      rw [hr, cell, hfind, if_neg hb, cell]

theorem answers (r : Registry) (c : Call) : r.Answers c := by
  cases c with
  | register a x => exact r.answers_register a x
  | attach a x pid => exact r.answers_attach a x pid
  | beginStop a => exact r.answers_beginStop a
  | beginFinish a x => exact r.answers_beginFinish a x
  | remove a x => exact r.answers_remove a x

-- ### All calls

theorem trace_filter (r : Registry) (calls : List Call) (a : Int) :
    (r.trace calls).filter (·.1.spider == a) =
      (r.cell a).trace (calls.filter (·.spider == a)) := by
  induction calls generalizing r with
  | nil => rfl
  | cons c rest ih =>
      have h := r.answers c
      rw [trace, List.filter_cons, List.filter_cons, ih]
      by_cases hc : c.spider = a
      · subst hc
        simp only [beq_self_eq_true, ↓reduceIte, Cell.trace, h.answer, h.own]
      · simp only [beq_iff_eq, hc, ↓reduceIte, h.others a (Ne.symm hc)]

theorem cell_perform (r : Registry) (calls : List Call) (a : Int) :
    (r.perform calls).cell a = (r.cell a).perform (calls.filter (·.spider == a)) := by
  induction calls generalizing r with
  | nil => rfl
  | cons c rest ih =>
      have h := r.answers c
      change ((r.answer c).2.perform rest).cell a = _
      rw [ih, List.filter_cons]
      by_cases hc : c.spider = a
      · subst hc
        rw [h.own]
        simp [Cell.perform]
      · rw [h.others a (Ne.symm hc)]
        simp [hc]

theorem perform_append (r : Registry) (before after : List Call) :
    r.perform (before ++ after) = (r.perform before).perform after := List.foldl_append

theorem trace_append (r : Registry) (before after : List Call) :
    r.trace (before ++ after) = r.trace before ++ (r.perform before).trace after := by
  induction before generalizing r with
  | nil => rfl
  | cons c rest ih =>
      rw [List.cons_append, trace, trace, ih]
      rfl

-- ### Spiders at work

theorem Sole.answer (h : r.Sole) (c : Call) : (r.answer c).2.Sole := by
  have change {a : Int} {f : Registration → Registration} (hf : ∀ g, (f g).spider = g.spider) :
      (r.change a f).Sole := by
    have hmap : (r.change a f).live.map (·.spider) = r.live.map (·.spider) := by
      rw [Registry.change, List.map_map]
      refine List.map_congr_left fun g _ => ?_
      rw [Function.comp_apply]
      split
      · exact hf g
      · rfl
    rw [Sole, hmap]
    exact h
  cases c with
  | register a x =>
      simp only [Registry.answer]
      split
      · rename_i n r' hr
        obtain ⟨hnew, rfl, rfl⟩ := register_eq_some_iff.mp hr
        rw [Sole, List.map_append]
        refine List.nodup_append.mpr ⟨h, List.nodup_singleton _, ?_⟩
        rintro b hb c hc rfl
        obtain ⟨g, hg, rfl⟩ := List.mem_map.mp hb
        exact hnew g hg (by simpa using hc)
      · exact h
  | attach a x pid =>
      simp only [Registry.answer, attach]
      split
      · exact change fun _ => rfl
      · exact h
  | beginStop a =>
      simp only [Registry.answer]
      split
      · rename_i t r' hr
        obtain ⟨g, -, -, -, -, rfl⟩ := beginStop_eq_some hr
        exact change fun _ => rfl
      · exact h
  | beginFinish a x =>
      simp only [Registry.answer]
      split
      · rename_i r' hr
        obtain ⟨g, -, -, -, -, rfl⟩ := beginFinish_eq_some h hr
        exact change fun _ => rfl
      · exact h
  | remove a x =>
      simp only [Registry.answer]
      split
      · rename_i r' hr
        obtain ⟨g, -, -, -, rfl⟩ := remove_eq_some h hr
        exact h.sublist (List.filter_sublist.map _)
      · exact h

theorem Sole.perform (h : r.Sole) (calls : List Call) : (r.perform calls).Sole := by
  induction calls generalizing r with
  | nil => exact h
  | cons c rest ih => exact ih (h.answer c)

theorem mem_running_iff : a ∈ r.running ↔ r.cell a ≠ .idle := by
  rw [running, List.mem_mergeSort, Ne, cell_eq_idle_iff, find?_eq_none_iff]
  simp

theorem Sole.running_ascending (h : r.Sole) : r.running.Pairwise (· < ·) := by
  have hle : r.running.Pairwise fun a b => decide (a ≤ b) = true := by
    refine List.pairwise_mergeSort ?_ ?_ _
    · intro a b c hab hbc
      simp only [decide_eq_true_eq] at hab hbc ⊢
      exact Int.le_trans hab hbc
    · intro a b
      simpa using Int.le_total a b
  have hne : r.running.Pairwise (· ≠ ·) := (List.mergeSort_perm _ _).nodup_iff.mpr h
  refine hle.imp₂ (fun a b hab hne => ?_) hne
  simp only [decide_eq_true_eq] at hab
  omega

-- ### The refinement

-- As long as the registration of a spider is not taken out: at most one claim to the end of its run
-- is granted, and once it is not `running` any more it never is again.
structure ClaimedOnce (r : Registry) (calls : List Call) (a : Int) : Prop where
  claims : (r.trace calls).countP (fun entry => entry.1.spider == a && isClaim entry) ≤ 1
  phase : ∀ earlier later, calls = earlier ++ later →
    ((r.perform earlier).cell a).isRunning = false → ((r.perform calls).cell a).isRunning = false

theorem claimedOnce {calls : List Call} (ha : r.cell a ≠ .idle)
    (hr : ∀ entry ∈ r.trace calls, entry.1.spider = a → isRemoval entry = false) :
    r.ClaimedOnce calls a := by
  -- seen by the automaton of the spider
  have stays (r : Registry) (calls : List Call)
      (hr : ∀ entry ∈ r.trace calls, entry.1.spider = a → isRemoval entry = false) :
      ∀ entry ∈ (r.cell a).trace (calls.filter (·.spider == a)), isRemoval entry = false := by
    intro entry hentry
    rw [← trace_filter, List.mem_filter] at hentry
    exact hr entry hentry.1 (by simpa using hentry.2)
  constructor
  · obtain ⟨-, hle⟩ := Cell.unclaimed_perform ha _ (stays r calls hr)
    have hone : (r.cell a).unclaimed ≤ 1 := by
      unfold Cell.unclaimed
      split <;> omega
    rw [← trace_filter, List.countP_filter] at hle
    simp only [Bool.and_comm] at hle ⊢
    omega
  · rintro earlier later rfl hearlier
    rw [trace_append] at hr
    have hfirst := Cell.unclaimed_perform ha _
      (stays r earlier fun entry he => hr entry (List.mem_append_left _ he))
    rw [← cell_perform] at hfirst
    have hlater := Cell.unclaimed_perform hfirst.1 _
      (stays (r.perform earlier) later fun entry he => hr entry (List.mem_append_right _ he))
    rw [← cell_perform, ← perform_append] at hlater
    have hzero : ((r.perform earlier).cell a).unclaimed = 0 := by
      rw [Cell.unclaimed, hearlier]
      rfl
    by_contra hrun
    have hone : ((r.perform (earlier ++ later)).cell a).unclaimed = 1 := by
      rw [Cell.unclaimed, if_pos (by simpa using hrun)]
    omega

-- `answers` and `cells`: the calls about one spider are answered, and leave the spider where it is
-- seen to be, as by an automaton that hears of no other calls. `claimed`: from a registration until
-- it is taken out, the run is claimed once at most.
structure RefinesAutomata (calls : List Call) : Prop where
  answers : ∀ a, (trace .empty calls).filter (·.1.spider == a) =
    Cell.trace .idle (calls.filter (·.spider == a))
  cells : ∀ a, (perform .empty calls).cell a = Cell.perform .idle (calls.filter (·.spider == a))
  contains : ∀ a, (perform .empty calls).contains a = true ↔
    Cell.perform .idle (calls.filter (·.spider == a)) ≠ .idle
  running : ∀ a, a ∈ (perform .empty calls).running ↔
    Cell.perform .idle (calls.filter (·.spider == a)) ≠ .idle
  ascending : (perform .empty calls).running.Pairwise (· < ·)
  claimed : ∀ before a x after, calls = before ++ .register a x :: after →
    ((perform .empty before).answer (.register a x)).1 = .done true →
    (∀ entry ∈ (perform .empty (before ++ [.register a x])).trace after,
      entry.1.spider = a → isRemoval entry = false) →
    (perform .empty (before ++ [.register a x])).ClaimedOnce after a

theorem refines_automata (calls : List Call) : RefinesAutomata calls := by
  have hcells (a : Int) : (perform .empty calls).cell a =
      Cell.perform .idle (calls.filter (·.spider == a)) := cell_perform .empty calls a
  refine ⟨trace_filter .empty calls, hcells, ?_, ?_, ?_, ?_⟩
  · intro a
    rw [← hcells, Ne, cell_eq_idle_iff, contains, Option.isSome_iff_ne_none]
  · intro a
    rw [← hcells, mem_running_iff]
  · have hempty : Registry.empty.Sole := List.nodup_nil
    exact (hempty.perform calls).running_ascending
  · intro before a x after _ hdone hkept
    refine claimedOnce ?_ hkept
    obtain ⟨hanswer, hown, -⟩ := (perform .empty before).answers (.register a x)
    rw [hanswer] at hdone
    rw [perform_append, show a = (Call.register a x).spider from rfl]
    change ((perform .empty before).answer (.register a x)).2.cell _ ≠ _
    rw [hown]
    cases hc : (perform .empty before).cell (Call.register a x).spider with
    | idle =>
        intro hidle
        cases hidle
    | _ =>
        rw [hc] at hdone
        cases hdone

end Registry

end Spiderworks
