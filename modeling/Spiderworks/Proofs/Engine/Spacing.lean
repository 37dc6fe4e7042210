import Spiderworks.Proofs.Engine.Denial
import Spiderworks.Proofs.Engine.Soundness
import Spiderworks.Proofs.Engine.Stamps
import Spiderworks.Proofs.Time.Written

namespace Spiderworks

open Time (Instant)

variable {s : Setup} {e : Engine} {h : Hub} {minutes : Nat}

-- ### Checks

-- A call that is let in after a time that is written in the store.
theorem RateLimit.interval_le_of_allow {last now : Instant} (hm : 0 < minutes)
    (hlast : last.IsWritten)
    (hc : check (some (String.ofList last.rfc3339)) minutes now = .allow) :
    (minutes * minuteNanos : Nat) ≤ now.since last := by
  have hstored : (some (String.ofList last.rfc3339)).bind Time.ofString? = some last := by
    rw [Option.bind_some, Time.ofString?_rfc3339 hlast]
  exact (check_eq_allow_iff (Nat.ne_of_gt hm) hstored).mp hc

-- ### Admissions

-- Somebody was let in: a run that was started at this time, or a direct call that was checked at
-- this time.
structure Admission where
  spider : Int
  time : Instant
  direct : Bool

def StartCall.admission? (s : Setup) (c : StartCall) (h : Hub) : Option Admission :=
  (c.step s h).2.1.map fun r => ⟨r.spider.id, r.began, false⟩

def DirectCall.admission? (s : Setup) (m : DirectMove) (c : DirectCall) (h : Hub) :
    Option Admission :=
  match c.stage, (c.step s m h).1.stage with
  | .admitting, .preparing _ => some ⟨c.spider, s.clock h.readings, true⟩
  | _, _ => none

namespace Engine

def admission? (s : Setup) (e : Engine) : Action → Option Admission
  | .start i => (e.starts[i]?).bind (·.admission? s e.hub)
  | .call i m => (e.calls[i]?).bind (·.admission? s m e.hub)
  | _ => none

-- In the order in which they happened.
def admissions (s : Setup) (e : Engine) : List Action → List Admission
  | [] => []
  | a :: rest => (e.admission? s a).toList ++ admissions s (e.act s a) rest

theorem admissions_concat (e : Engine) (actions : List Action) (a : Action) :
    e.admissions s (actions ++ [a]) =
      e.admissions s actions ++ ((e.perform s actions).admission? s a).toList := by
  induction actions generalizing e with
  | nil => simp [admissions]
  | cons b rest ih => simp only [List.cons_append, admissions, ih, perform_cons, List.append_assoc]

end Engine

theorem DirectCall.stage_of_admission {c : DirectCall} {m : DirectMove} {u : Admission}
    (hu : c.admission? s m h = some u) : c.stage = .admitting ∧
      (∃ d, (c.step s m h).1.stage = .preparing d) ∧ u = ⟨c.spider, s.clock h.readings, true⟩ := by
  unfold admission? at hu
  split at hu
  · rename_i d hc hd
    cases hu
    exact ⟨hc, ⟨d, hd⟩, rfl⟩
  · cases hu

-- ### The clock

-- The first readings of the clock: they never go back, are of the years 0 to 9999, and are no leap
-- seconds, which a system clock does not count.
structure Setup.SteadyClock (s : Setup) (readings : Nat) : Prop where
  ordered : ∀ i j, i ≤ j → j < readings → s.clock i ≤ s.clock j
  year : ∀ i < readings, 0 ≤ (Time.Date.ofDay (s.clock i).day).year ∧
    (Time.Date.ofDay (s.clock i).day).year ≤ 9999
  whole : ∀ i < readings, (s.clock i).nanos < Time.billion

namespace Setup.SteadyClock

variable {n m i : Nat}

theorem of_le (h : s.SteadyClock n) (hm : m ≤ n) : s.SteadyClock m where
  ordered i j hij hj := h.ordered i j hij (Nat.lt_of_lt_of_le hj hm)
  year i hi := h.year i (Nat.lt_of_lt_of_le hi hm)
  whole i hi := h.whole i (Nat.lt_of_lt_of_le hi hm)

theorem notLeap (h : s.SteadyClock n) (hi : i < n) : (s.clock i).isLeap = false := by
  simpa [Instant.isLeap] using h.whole i hi

theorem written (h : s.SteadyClock n) (hi : i < n) : (s.clock i).IsWritten where
  year := h.year i hi
  nanos := by have := h.whole i hi; omega
  leap hleap := by rw [h.notLeap hi] at hleap; cases hleap

end Setup.SteadyClock

-- ### One step

namespace Engine

theorem restamped_act (e : Engine) (a : Action) : e.hub.Restamped s (e.act s a).hub := by
  have same : e.hub.Restamped s e.hub := .of_same (Nat.le_refl _) (.refl _)
  cases a with
  | askStart spider | askStop spider | askWait spider | wait i => exact same
  | askCall spider code => exact .of_same (Nat.le_succ _) (.refl _)
  | start i =>
      simp only [act, moveStart]
      split
      · exact same
      · exact StartCall.step_restamped _ _
  | run j m =>
      simp only [act, moveRun]
      split
      · exact same
      · exact .of_same (Run.readings_le _ m _) (Run.step_same_stamps _ m _)
  | stop k m =>
      simp only [act, moveStop]
      split
      · exact same
      · exact .of_same (StopCall.readings_le _ m _)
          (StopCall.step_same_but_status (fun _ _ => rfl) _ m)
  | call i m =>
      simp only [act, moveCall]
      split
      · exact same
      · exact DirectCall.step_restamped _ m _

-- Who is let in at the time of the next reading stamps the spider with that time or a later one;
-- a call has been checked against the time that the spider had before.
structure Admits (s : Setup) (e e' : Engine) (u : Admission) : Prop where
  time : u.time = s.clock e.hub.readings
  stamped : ∃ n, e.hub.readings ≤ n ∧ n < e'.hub.readings ∧
    ∀ r ∈ e'.hub.rows, r.id = u.spider → r.StampedAt (s.clock n)
  checked : u.direct = true → ∃ y, e.hub.store.spider? u.spider = .ok (some y) ∧
    RateLimit.check y.lastRun
      (RateLimit.intervalOf (e.hub.store.setting? RateLimit.settingKey) s.minutes) u.time = .allow

theorem admits {u : Admission} {a : Action} (hu : e.admission? s a = some u) :
    Admits s e (e.act s a) u := by
  cases a with
  | start i =>
      obtain ⟨c, hi, hc⟩ := Option.bind_eq_some_iff.mp hu
      obtain ⟨r, hr, rfl⟩ := Option.map_eq_some_iff.mp hc
      obtain ⟨hbegan, hlt, hstamped⟩ := StartCall.step_stamped hr
      simp only [act, moveStart, hi]
      exact ⟨hbegan, ⟨_, Nat.le_refl _, hlt, hbegan ▸ hstamped⟩, fun hdirect => by cases hdirect⟩
  | call i m =>
      obtain ⟨c, hi, hc⟩ := Option.bind_eq_some_iff.mp hu
      obtain ⟨hstage, ⟨d, hd⟩, rfl⟩ := DirectCall.stage_of_admission hc
      obtain ⟨hreadings, hchecked, hstamped⟩ := DirectCall.step_stamped hstage hd
      simp only [act, moveCall, hi]
      refine ⟨rfl, ⟨_, Nat.le_succ _, ?_, hstamped⟩, fun _ => hchecked⟩
      rw [hreadings]
      exact Nat.lt_succ_self _
  | _ => cases hu

-- ### Whole runs

-- The spider of everybody who was let in bears the time of the admission, or a later one.
structure Stamped (s : Setup) (e : Engine) (past : List Admission) : Prop where
  read : ∀ u ∈ past, ∃ n < e.hub.readings, u.time = s.clock n
  stamped : ∀ u ∈ past, ∀ r ∈ e.hub.rows, r.id = u.spider →
    ∃ n < e.hub.readings, u.time ≤ s.clock n ∧ r.StampedAt (s.clock n)

theorem Stamped.keep {e' : Engine} {past : List Admission} (h : e.Stamped s past)
    (hub : e.hub.Restamped s e'.hub) (clock : s.SteadyClock e'.hub.readings) :
    e'.Stamped s past where
  read u hu := by
    obtain ⟨n, hn, ht⟩ := h.read u hu
    exact ⟨n, Nat.lt_of_lt_of_le hn hub.readings, ht⟩
  stamped u hu r hr hid := by
    rcases hub.rows r hr with ⟨r', hr', hs⟩ | ⟨n, hle, hlt, hs⟩
    · obtain ⟨hid', hlast⟩ := Prod.mk.inj hs
      obtain ⟨n, hn, ht, hs'⟩ := h.stamped u hu r' hr' (hid'.trans hid)
      exact ⟨n, Nat.lt_of_lt_of_le hn hub.readings, ht, hlast.symm.trans hs'⟩
    · obtain ⟨k, hk, ht⟩ := h.read u hu
      exact ⟨n, hlt, ht ▸ clock.ordered k n (by omega) hlt, hs⟩

theorem Stamped.admitted {e' : Engine} {past : List Admission} {u : Admission}
    (h : e'.Stamped s past) (hu : Admits s e e' u) (clock : s.SteadyClock e'.hub.readings) :
    e'.Stamped s (past ++ [u]) := by
  obtain ⟨n, hle, hlt, hs⟩ := hu.stamped
  constructor
  · intro v hv
    rcases List.mem_append.mp hv with hv | hv
    · exact h.read v hv
    · rw [List.mem_singleton.mp hv]
      exact ⟨_, Nat.lt_of_le_of_lt hle hlt, hu.time⟩
  · intro v hv r hr hid
    rcases List.mem_append.mp hv with hv | hv
    · exact h.stamped v hv r hr hid
    · rw [List.mem_singleton.mp hv] at hid ⊢
      exact ⟨n, hlt, hu.time ▸ clock.ordered _ n hle hlt, hs r hr hid⟩

-- The distance of a call to everybody before it.
theorem Stamped.interval_le {e' : Engine} {past : List Admission} {u v : Admission}
    (h : e.Stamped s past) (hm : 0 < minutes)
    (interval : RateLimit.intervalOf (e.hub.store.setting? RateLimit.settingKey) s.minutes =
      minutes)
    (hv : Admits s e e' v) (hdirect : v.direct = true) (clock : s.SteadyClock e'.hub.readings)
    (hu : u ∈ past) (hspider : u.spider = v.spider) :
    (minutes * RateLimit.minuteNanos : Nat) ≤ v.time.since u.time := by
  obtain ⟨n, hle, hlt, -⟩ := hv.stamped
  obtain ⟨y, hy, hcheck⟩ := hv.checked hdirect
  obtain ⟨row, hrow, hid, hread⟩ := Store.exists_row hy
  obtain ⟨k, hk, hku, hstamp⟩ := h.stamped u hu row (List.mem_of_find?_eq_some hrow)
    (hid.trans hspider.symm)
  obtain ⟨i, hi, htime⟩ := h.read u hu
  have hlast := congrArg Spider.lastRun (SpiderRow.reads hread).fields
  rw [hlast, hstamp, interval] at hcheck
  have hspan := RateLimit.interval_le_of_allow hm (clock.written (by omega)) hcheck
  refine Int.le_trans hspan (Instant.since_le_since ?_ ?_ ?_ hku)
  · rw [hv.time]
    exact clock.notLeap (by omega)
  · rw [htime]
    exact clock.notLeap (by omega)
  · exact clock.notLeap (by omega)

-- A later call of the same spider keeps the distance.
def Apart (minutes : Nat) (u v : Admission) : Prop :=
  u.spider = v.spider → v.direct = true →
    (minutes * RateLimit.minuteNanos : Nat) ≤ v.time.since u.time

theorem stamped_pairwise (hm : 0 < minutes) (site : Site) (actions : List Action)
    (clock : s.SteadyClock ((ofSite site).perform s actions).hub.readings)
    (interval : ∀ before after, actions = before ++ after →
      RateLimit.intervalOf
        (((ofSite site).perform s before).hub.store.setting? RateLimit.settingKey) s.minutes =
        minutes) :
    ((ofSite site).perform s actions).Stamped s ((ofSite site).admissions s actions) ∧
      ((ofSite site).admissions s actions).Pairwise (Apart minutes) := by
  induction actions using List.reverseRecOn with
  | nil => exact ⟨⟨nofun, nofun⟩, .nil⟩
  | append_singleton actions a ih =>
      rw [perform_append, perform_cons, perform_nil] at clock ⊢
      rw [admissions_concat]
      have hub := restamped_act (s := s) ((ofSite site).perform s actions) a
      obtain ⟨hstamped, hpairwise⟩ := ih (clock.of_le hub.readings) fun before after h =>
        interval before (after ++ [a]) (by rw [h, List.append_assoc])
      have hkept := hstamped.keep hub clock
      cases ha : ((ofSite site).perform s actions).admission? s a with
      | none => simpa using ⟨hkept, hpairwise⟩
      | some v =>
          have hv := admits ha
          refine ⟨hkept.admitted hv clock, List.pairwise_append.mpr
            ⟨hpairwise, List.pairwise_singleton _ _, fun u hu w hw => ?_⟩⟩
          cases List.mem_singleton.mp hw
          exact fun hspider hdirect => hstamped.interval_le hm
            (interval actions [a] rfl) hv hdirect clock hu hspider

-- The calls of one spider that are let in from `t` on, before the interval is over.
def callsWithin (minutes : Nat) (a : Int) (t : Instant) (u : Admission) : Bool :=
  u.spider == a && u.direct && decide (0 ≤ u.time.since t) &&
    decide (u.time.since t < (minutes * RateLimit.minuteNanos : Nat))

theorem countP_callsWithin_le {l : List Admission} (hl : l.Pairwise (Apart minutes))
    (leap : ∀ u ∈ l, u.time.isLeap = false) (a : Int) {t : Instant} (ht : t.isLeap = false) :
    l.countP (callsWithin minutes a t) ≤ 1 := by
  induction l with
  | nil => simp
  | cons u rest ih =>
      obtain ⟨hu, hrest⟩ := List.pairwise_cons.mp hl
      have hle := ih hrest fun v hv => leap v (List.mem_cons_of_mem _ hv)
      by_cases hin : callsWithin minutes a t u = true
      · -- who comes after `u` comes when the interval is over
        have hnone : rest.countP (callsWithin minutes a t) = 0 := by
          rw [List.countP_eq_zero]
          intro v hv hvin
          simp only [callsWithin, Bool.and_eq_true, beq_iff_eq, decide_eq_true_eq] at hin hvin
          have hapart := hu v hv (hin.1.1.1.trans hvin.1.1.1.symm) hvin.1.1.2
          have hleapu := leap u List.mem_cons_self
          have hleapv := leap v (List.mem_cons_of_mem _ hv)
          rw [Instant.since_eq hleapv hleapu] at hapart
          rw [Instant.since_eq hleapu ht] at hin
          rw [Instant.since_eq hleapv ht] at hvin
          omega
        rw [List.countP_cons_of_pos hin, hnone]
      · rw [List.countP_cons_of_neg hin]
        exact hle

-- `apart`: a call that is let in comes a whole interval after everyone of its spider who was let
-- in before. `once`: so of all calls, however they race, one at most is let in within an interval,
-- whenever that begins.
structure KeepsDistance (s : Setup) (e : Engine) (actions : List Action) (minutes : Nat) :
    Prop where
  apart : (e.admissions s actions).Pairwise fun (u v : Admission) =>
    u.spider = v.spider → v.direct = true →
      (minutes * RateLimit.minuteNanos : Nat) ≤ v.time.since u.time
  once : ∀ a t, t.isLeap = false →
    (e.admissions s actions).countP (callsWithin minutes a t) ≤ 1

theorem keeps_distance (hm : 1 ≤ minutes) (site : Site) (actions : List Action)
    (clock : s.SteadyClock ((ofSite site).perform s actions).hub.readings)
    (interval : ∀ before after, actions = before ++ after →
      RateLimit.intervalOf
        (((ofSite site).perform s before).hub.store.setting? RateLimit.settingKey) s.minutes =
        minutes) :
    (ofSite site).KeepsDistance s actions minutes := by
  obtain ⟨hstamped, hpairwise⟩ := stamped_pairwise hm site actions clock interval
  refine ⟨hpairwise, fun a t ht => countP_callsWithin_le hpairwise (fun u hu => ?_) a ht⟩
  obtain ⟨n, hn, htime⟩ := hstamped.read u hu
  rw [htime]
  exact clock.notLeap hn

end Engine

-- A small engine with a limit of one minute, whose clock goes on by half a minute.
def Setup.limited : Setup :=
  { Setup.small with
    minutes := 1
    clock := fun n => ⟨30 * n, 0⟩ }

-- Of three calls the first is let in, the second refused, and the third let in.
def Engine.threeCalls : List Action :=
  [.askCall 1 none, .askCall 1 none, .call 0 .onward, .call 1 .onward, .askCall 1 none,
    .call 2 .onward]

theorem Setup.limited_clock : Setup.limited.SteadyClock 9 where
  ordered i j hij _ := by
    refine Instant.le_def.mpr ?_
    simp only [Setup.limited]
    omega
  year i hi := by
    have hday : (Setup.limited.clock i).day = 0 := by
      simp only [Setup.limited, Instant.day, Time.secondsPerDay]
      omega
    rw [hday]
    decide
  whole _ _ := (by decide : 0 < Time.billion)

theorem Engine.threeCalls_settings (n : Nat) :
    ((ofSite Site.small).perform Setup.limited (threeCalls.take n)).hub.store.settings = [] := by
  match n with
  | 0 | 1 | 2 | 3 | 4 | 5 => rfl
  | n + 6 =>
      rw [List.take_of_length_le (by simp [threeCalls])]
      rfl

theorem Engine.keeps_distance_small : 1 ≤ 1 ∧
    Setup.limited.SteadyClock
      ((ofSite Site.small).perform Setup.limited threeCalls).hub.readings ∧
    ((ofSite Site.small).admissions Setup.limited threeCalls).map
      (fun u => (u.spider, u.time, u.direct)) = [(1, ⟨60, 0⟩, true), (1, ⟨210, 0⟩, true)] ∧
    (ofSite Site.small).KeepsDistance Setup.limited threeCalls 1 := by
  refine ⟨Nat.le_refl 1, Setup.limited_clock, rfl,
    keeps_distance (Nat.le_refl 1) Site.small _ Setup.limited_clock ?_⟩
  intro before after h
  have hbefore : before = threeCalls.take before.length := by rw [h, List.take_left]
  rw [hbefore, Store.setting?, threeCalls_settings]
  rfl

end Spiderworks
