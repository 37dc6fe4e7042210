import Spiderworks.Proofs.Worker.Attempts
import Spiderworks.Proofs.Worker.Documents

namespace Spiderworks.Worker

open RuleSet (IsSpan isDuration isDuration_iff)

variable {net : Network} {s : RuleSet} {p : Program} {config : RuleSet.Config} {disk : Disk}
  {timestamp : Float} {directory : String} {limit attempt : Nat}

-- ### Fetching

theorem ending_fetchFrom (hdelay : isDuration s.delay = true) :
    (fetchFrom net s limit attempt).ending ≠ .error .brokenOff := by
  fun_induction fetchFrom net s limit attempt with
  | case1 | case4 => nofun
  | case2 _ _ _ _ _ _ ih => exact ih
  | case3 _ _ _ _ hnone => exact absurd hdelay hnone

-- A wait that is no span of time is noticed after the first attempt.
theorem fetchPage_brokenOff_iff : (fetchPage net s).ending = .error .brokenOff ↔
    isDuration s.delay = false ∧ 1 < attemptsOf s ∧ Fails net s 1 := by
  cases hdelay : isDuration s.delay with
  | true => exact iff_of_false (ending_fetchFrom hdelay) (by simp)
  | false =>
      rw [fetchPage, fetchFrom, Fails]
      cases hone : fetchOnce net s.url 1 with
      | ok page => simp
      | error reason =>
          by_cases hmore : 1 < attemptsOf s
          · simp [hmore, hdelay]
          · simp [hmore]

-- ### Whole runs

-- A header that cannot be sent is told before anything else is looked at.
def Sendable (s : RuleSet) : Prop := ∀ h ∈ s.headers, isHeader h = true

theorem checkHeaders_of_sendable (h : Sendable s) : checkHeaders s = .ok () := by
  have hnone : s.headers.find? (fun h => !isHeader h) = none :=
    List.find?_eq_none.mpr fun header hmem => by simp [h header hmem]
  rw [checkHeaders, hnone]

theorem checkHeaders_of_not (h : ¬Sendable s) :
    ∃ name, checkHeaders s = .error (.told (.header name)) := by
  have hsome : (s.headers.find? fun h => !isHeader h).isSome :=
    List.find?_isSome.mpr (by simpa [Sendable] using h)
  obtain ⟨⟨name, value⟩, hfound⟩ := Option.isSome_iff_exists.mp hsome
  exact ⟨name, by rw [checkHeaders, hfound]⟩

theorem collect_brokenOff_iff : collect net p = .error .brokenOff ↔ Sendable p.ruleSet ∧
    (isDuration p.ruleSet.timeout = false ∨
      (fetchPage net p.ruleSet).ending = .error .brokenOff) := by
  by_cases hheaders : Sendable p.ruleSet
  · rw [collect, prepare, checkHeaders_of_sendable hheaders, checkSpan]
    cases htimeout : isDuration p.ruleSet.timeout with
    | false => exact iff_of_true rfl ⟨hheaders, .inl rfl⟩
    | true =>
        cases hpage : (fetchPage net p.ruleSet).ending with
        | ok page => exact iff_of_false nofun (by simp)
        | error trouble =>
            have hsame : (Except.error trouble : Except Trouble (List Extract.Record)) =
                .error .brokenOff ↔ trouble = .brokenOff := by simp
            exact hsame.trans (by simp [hheaders])
  · obtain ⟨name, hname⟩ := checkHeaders_of_not hheaders
    refine iff_of_false ?_ fun h => hheaders h.1
    rw [collect, prepare, hname]
    nofun

-- A worker delivers what it has collected, or tells what went wrong.
inductive Ends (p : Program) (timestamp : Float) (disk : Disk) : WorkerEnd → Prop
  | delivered (output : String) (d : Disk) : Ends p timestamp disk (.report ⟨0, output, "", d⟩)
  | failed (e : WorkerError) : Ends p timestamp disk (.report (failureReport p timestamp disk e))

theorem execute_of_brokenOff (h : collect net p = .error .brokenOff) :
    execute net p timestamp directory disk = .brokenOff := by
  rw [execute, h]

theorem ends_of_not_brokenOff (h : collect net p ≠ .error .brokenOff) :
    Ends p timestamp disk (execute net p timestamp directory disk) := by
  unfold execute
  split
  · rename_i hbroken
    exact absurd hbroken h
  · exact .failed _
  · split
    · exact .delivered _ _
    · exact .failed _

theorem ends_iff : Ends p timestamp disk (execute net p timestamp directory disk) ↔
    collect net p ≠ .error .brokenOff := by
  refine ⟨fun h hbroken => ?_, ends_of_not_brokenOff⟩
  rw [execute_of_brokenOff hbroken] at h
  cases h

-- Whatever the network answers and wherever it is run.
def Completes (p : Program) : Prop := ∀ net timestamp directory disk,
  Ends p timestamp disk (execute net p timestamp directory disk)

-- The times that a worker comes to use are spans of time.
def UsesSpans (s : RuleSet) : Prop := IsSpan s.timeout ∧ (1 < attemptsOf s → IsSpan s.delay)

theorem completes_iff : Completes p ↔ (Sendable p.ruleSet → UsesSpans p.ruleSet) := by
  have hcomplete : Completes p ↔ ∀ net, collect net p ≠ .error .brokenOff :=
    ⟨fun h net => ends_iff.mp (h net 0.0 "" .empty), fun h net _ _ _ => ends_iff.mpr (h net)⟩
  rw [hcomplete, UsesSpans, ← isDuration_iff, ← isDuration_iff]
  constructor
  · intro h hheaders
    constructor
    · by_contra htimeout
      exact h (fun _ _ => .error "")
        (collect_brokenOff_iff.mpr ⟨hheaders, .inl (Bool.eq_false_iff.mpr htimeout)⟩)
    · intro hmore
      by_contra hdelay
      refine h (fun _ _ => .error "") (collect_brokenOff_iff.mpr ⟨hheaders, .inr ?_⟩)
      exact fetchPage_brokenOff_iff.mpr
        ⟨Bool.eq_false_iff.mpr hdelay, hmore, fails_always p.ruleSet 1⟩
  · intro h net hbroken
    obtain ⟨hheaders, htimeout | hpage⟩ := collect_brokenOff_iff.mp hbroken
    · exact absurd (h hheaders).1 (Bool.eq_false_iff.mp htimeout)
    · obtain ⟨hdelay, hmore, -⟩ := fetchPage_brokenOff_iff.mp hpage
      exact absurd ((h hheaders).2 hmore) (Bool.eq_false_iff.mp hdelay)

-- ### Documents

theorem usesSpans_of_config (h : RuleSet.ofConfig config = .ok s) : UsesSpans s :=
  ⟨isDuration_iff.mp (RuleSet.isDuration_timeout h),
    fun _ => isDuration_iff.mp (RuleSet.isDuration_delay h)⟩

-- The worker of a document that was taken comes to its end, wherever it is run and whatever it is
-- answered, exactly if the times that it comes to use are spans of time. Those of a configuration
-- that was accepted are, and so the document of a spider, read back, is always run to its end.
theorem accepted_completes_iff (text : String) (config : RuleSet.Config) :
    (∀ p, Program.read text = .ok p →
      (Completes p ↔ (Sendable p.ruleSet → UsesSpans p.ruleSet)) ∧
      (¬Completes p → ∃ net, ∀ timestamp directory disk,
        execute net p timestamp directory disk = .brokenOff)) ∧
    (∀ s, RuleSet.ofConfig config = .ok s → IsSpan s.timeout ∧ IsSpan s.delay ∧
      ∀ spider execution mode, Completes ⟨spider, execution, mode, s⟩) ∧
    ∀ (d : Definition) (l : Launchers) (execution : String) (mode : RunMode)
      (override : Option String) (s : RuleSet), d.kind = .rules →
      RuleSet.ofConfig d.config = .ok s → d.Holds → (Number.double s.delay).Rereads →
      (Number.double s.timeout).Rereads →
      ∃ program p, d.synthesize l execution mode override = .ok program ∧
        Program.read program.source = .ok p ∧ Completes p := by
  refine ⟨fun p _ => ⟨completes_iff, fun hnot => ?_⟩, fun s h => ?_, ?_⟩
  · obtain ⟨hheaders, hspans⟩ := Classical.not_imp.mp (mt completes_iff.mpr hnot)
    refine ⟨fun _ _ => .error "", fun timestamp directory disk => execute_of_brokenOff ?_⟩
    refine collect_brokenOff_iff.mpr ⟨hheaders, ?_⟩
    rw [UsesSpans, ← isDuration_iff, ← isDuration_iff] at hspans
    by_cases htimeout : isDuration p.ruleSet.timeout = true
    · obtain ⟨hmore, hdelay⟩ := Classical.not_imp.mp fun h => hspans ⟨htimeout, h⟩
      exact .inr (fetchPage_brokenOff_iff.mpr
        ⟨Bool.eq_false_iff.mpr hdelay, hmore, fails_always p.ruleSet 1⟩)
    · exact .inl (Bool.eq_false_iff.mpr htimeout)
  · exact ⟨isDuration_iff.mp (RuleSet.isDuration_timeout h),
      isDuration_iff.mp (RuleSet.isDuration_delay h),
      fun _ _ _ => completes_iff.mpr fun _ => usesSpans_of_config h⟩
  · intro d l execution mode override s hd hs hholds hdelay htimeout
    exact ⟨_, _, Definition.synthesize_rules hd hs l execution mode override,
      Program.read_text (hholds.program hs execution mode) hdelay htimeout,
      completes_iff.mpr fun _ => usesSpans_of_config hs⟩

-- Its page is to be waited for less than no time.
def rushed : Program := ⟨1, "e", .files, ⟨"http://[::1]/", [], 0.0, -1.0, 0, []⟩⟩

theorem rushed_brokenOff : Program.read rushed.text = .ok rushed ∧ ¬IsSpan rushed.ruleSet.timeout ∧
    ∀ net timestamp directory disk,
      execute net rushed timestamp directory disk = .brokenOff := by
  have hzero : (Number.double 0.0).Rereads := Number.rereads_of_check (by decide +kernel)
  have hminus : (Number.double (-1.0)).Rereads := Number.rereads_of_check (by decide +kernel)
  have htimeout : isDuration rushed.ruleSet.timeout = false := by decide +kernel
  refine ⟨Program.read_text ⟨by decide, .nil, by decide⟩ hzero hminus, ?_, ?_⟩
  · exact fun hspan => Bool.eq_false_iff.mp htimeout (isDuration_iff.mpr hspan)
  · exact fun net timestamp directory disk => execute_of_brokenOff
      (collect_brokenOff_iff.mpr ⟨List.forall_mem_nil _, .inl htimeout⟩)

end Spiderworks.Worker
