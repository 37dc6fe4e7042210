import Spiderworks.Proofs.Engine.Notes
import Spiderworks.Proofs.Engine.Patience

namespace Spiderworks

open History

variable {log more : List Event} {event : Event} {s : Setup} {h : Hub} {e : Engine} {i j k n : Nat}
  {a : Int} {x : String} {r : Run} {child : Option Child}

-- ### The process of a run

def RunStage.child? : RunStage → Option Child
  | .launched _ c | .watching _ c => some c
  | _ => none

def Engine.launched? (e : Engine) (j : Nat) : Option Child :=
  (e.runs[j]?).bind (·.stage.child?)

-- The process that a run has launched in the course of the actions.
def Engine.child? (s : Setup) (e : Engine) (j : Nat) : List Action → Option Child
  | [] => e.launched? j
  | a :: rest => (e.launched? j).or ((e.act s a).child? s j rest)

theorem Engine.child?_concat (e : Engine) (j : Nat) (actions : List Action) (a : Action) :
    e.child? s j (actions ++ [a]) =
      (e.child? s j actions).or (((e.perform s actions).act s a).launched? j) := by
  induction actions generalizing e with
  | nil => rfl
  | cons b rest ih =>
      rw [List.cons_append, child?, child?, ih, Option.or_assoc]
      rfl

-- An end and the process that has come to it.
def RunEnd.Fits (child : Option Child) : RunEnd → Prop
  | .exited o => ∃ c ending, child = some c ∧ c.course.byItself = some ending ∧
      o = c.outputAt ending
  | .stopped => True
  | .failed _ => child = none

def RunStage.Fits (child : Option Child) : RunStage → Prop
  | .preparing | .prepared _ => child = none
  | .launched _ c | .watching _ c => child = some c
  | .saving _ chores e => e.Fits child ∧ ∃ c ending, child = some c ∧
      chores <:+ Chore.ofOutput (c.outputAt ending)
  | .scanning _ e | .registering _ _ e | .ended e | .claimed e => e.Fits child
  | .leaving | .signing | .done => True

theorem RunStage.Fits.or_child {stage : RunStage} (hf : stage.Fits child) :
    child.or stage.child? = child := by
  cases stage with
  | launched p c =>
      rw [show child = some c from hf]
      rfl
  | watching p c =>
      rw [show child = some c from hf]
      rfl
  | _ => exact Option.or_none

-- A run that does not lose its process keeps to it.
theorem Run.step_fits {m : RunMove} (hm : ∀ error, m ≠ .lose error) (hf : r.stage.Fits child) :
    (r.step s m h).1.stage.Fits (child.or (r.step s m h).1.stage.child?) := by
  obtain ⟨d, x, n, began, stage⟩ := r
  cases stage with
  | preparing =>
      have hnone : child = none := hf
      simp only [step, nextStage, stepPreparing]
      split <;> exact hnone ▸ rfl
  | prepared p =>
      have hnone : child = none := hf
      simp only [step, nextStage, stepPrepared]
      split
      · trivial
      · split <;> exact hnone ▸ rfl
  | launched p c =>
      have hsome : child = some c := hf
      exact hsome ▸ rfl
  | watching p c =>
      have hsome : child = some c := hf
      subst hsome
      cases m with
      | onward =>
          simp only [step, nextStage, stepWatching]
          split
          · rename_i ending hend
            exact ⟨⟨c, ending, rfl, hend, rfl⟩, c, ending, rfl, List.suffix_refl _⟩
          · rfl
      | heed =>
          simp only [step, nextStage, stepWatching]
          split
          · exact ⟨trivial, c, c.course.shutDown, rfl, List.suffix_refl _⟩
          · rfl
      | lose error => exact absurd rfl (hm error)
  | saving p chores e =>
      obtain ⟨he, c, ending, hc, hsuffix⟩ := hf
      cases chores with
      | nil => exact Option.or_none ▸ he
      | cons chore rest =>
          simp only [step, nextStage, stepSaving]
          split
          · exact Option.or_none ▸ ⟨he, c, ending, hc, (List.suffix_cons chore rest).trans hsuffix⟩
          · exact Option.or_none ▸ he
  | scanning p e => exact Option.or_none ▸ hf
  | registering p files e =>
      cases files with
      | nil => exact Option.or_none ▸ hf
      | cons f rest =>
          simp only [step, nextStage, stepRegistering]
          split <;> exact Option.or_none ▸ hf
  | ended e =>
      cases e with
      | stopped => trivial
      | _ =>
          simp only [step, nextStage, stepEnded]
          split
          · exact Option.or_none ▸ hf
          · trivial
  | _ => trivial

-- ### The lines of its output

def Run.linesOf (r : Run) (child : Option Child) : List NewLog :=
  match child with
  | none => []
  | some c =>
    lineEntries r.spider.id r.execution (Utf8.lenient c.output) (Utf8.lenient c.errors)

-- Those that the run has stored so far.
def Run.stored (r : Run) (child : Option Child) : List NewLog :=
  match r.stage with
  | .preparing | .prepared _ | .launched _ _ | .watching _ _ | .saving _ (_ :: _) _ => []
  | _ => r.linesOf child

theorem Run.stored_of_closed (hr : r.stage.isOpen = false) : r.stored child = r.linesOf child := by
  obtain ⟨d, x, n, began, stage⟩ := r
  cases stage <;> first | rfl | cases hr

theorem Run.step_stored {m : RunMove} (hm : ∀ error, m ≠ .lose error) (hf : r.stage.Fits child)
    (hs : h.site.shared.Willing) (hid : h.has r.spider.id = true) :
    (r.step s m h).1.stored (child.or (r.step s m h).1.stage.child?) =
      r.stored child ++ r.entries := by
  obtain ⟨d, x, n, began, stage⟩ := r
  have same : Run.linesOf ⟨d, x, n, began, stage⟩ (child.or none) =
      Run.linesOf ⟨d, x, n, began, stage⟩ child ++ [] := by
    rw [Option.or_none, List.append_nil]
  cases stage with
  | preparing =>
      have hnone : child = none := hf
      subst hnone
      simp only [step, nextStage, stepPreparing]
      split <;> rfl
  | prepared p =>
      have hnone : child = none := hf
      subst hnone
      simp only [step, nextStage, stepPrepared]
      split
      · rfl
      · split <;> rfl
  | launched p c => rfl
  | watching p c =>
      cases m with
      | onward =>
          simp only [step, nextStage, stepWatching]
          split <;> rfl
      | heed =>
          simp only [step, nextStage, stepWatching]
          split <;> rfl
      | lose error => exact absurd rfl (hm error)
  | saving p chores e =>
      obtain ⟨-, c, ending, rfl, hsuffix⟩ := hf
      cases chores with
      | nil => exact (List.append_nil _).symm
      | cons chore rest =>
          let r : Run := ⟨d, x, n, began, .saving p (chore :: rest) e⟩
          obtain ⟨k, hwork, -⟩ := Run.work_doChore (s := s)
            (h := (h.readTimes s (r.readings chore)).2) (r := r) hs hid
            (h.readTimes s (r.readings chore)).1 chore
          simp only [step, nextStage, stepSaving]
          rw [hwork]
          -- the lines are the last of the three chores
          rcases List.suffix_cons_iff.mp hsuffix with heq | hsuffix
          · cases heq
            rfl
          · rcases List.suffix_cons_iff.mp hsuffix with heq | hsuffix
            · cases heq
              rfl
            · rcases List.suffix_cons_iff.mp hsuffix with heq | hsuffix
              · cases heq
                rfl
              · cases List.suffix_nil.mp hsuffix
  | scanning p e => exact same
  | registering p files e =>
      cases files with
      | nil => exact same
      | cons f more =>
          simp only [step, nextStage, stepRegistering]
          split <;> exact same
  | ended e =>
      cases e with
      | stopped => exact same
      | _ =>
          simp only [step, nextStage, stepEnded]
          split <;> exact same
  | _ => exact same

-- ### The last line

def Event.level? : Event → Option LogLevel
  | .settled _ _ _ e => some e.level
  | .stopped _ _ _ => some .warning
  | _ => none

theorem Event.isFinal_iff : event.level?.isSome = event.isFinal := by cases event <;> rfl

-- The levels of the final entries of an execution.
def History.finals (log : List Event) (x : String) : List LogLevel :=
  log.filterMap fun event => if event.execution = x then event.level? else none

theorem History.finals_append (log more : List Event) (x : String) :
    finals (log ++ more) x = finals log x ++ finals more x := List.filterMap_append

theorem History.finals_quiet {o : Option Event}
    (ho : ∀ event ∈ o, event.execution = x → event.isFinal = false) :
    finals (log ++ o.toList) x = finals log x := by
  cases o with
  | none => simp
  | some event =>
      rw [finals_append, Option.toList_some]
      by_cases hx : event.execution = x
      · have hlevel : event.level? = none := by
          have := ho event rfl hx
          rw [← Event.isFinal_iff] at this
          simpa using this
        simp [finals, hlevel]
      · simp [finals, hx]

theorem History.finals_concat {level : LogLevel} (he : event.level? = some level) :
    finals (log ++ [event]) event.execution = finals log event.execution ++ [level] := by
  rw [finals_append]
  simp [finals, he]

theorem History.finals_eq_nil (h : ¬Finalised log x) : finals log x = [] := by
  refine List.filterMap_eq_nil_iff.mpr fun event hm => ?_
  split
  · rename_i hx
    have hfinal : event.isFinal ≠ true := fun hf => h ⟨event, hm, hf, hx⟩
    rw [← Event.isFinal_iff] at hfinal
    simpa using hfinal
  · rfl

theorem History.Lawful.finals_eq {level : LogLevel} (hl : Lawful log) (hm : event ∈ log)
    (he : event.level? = some level) : finals log event.execution = [level] := by
  have hmem : level ∈ finals log event.execution :=
    List.mem_filterMap.mpr ⟨event, hm, by rw [if_pos rfl, he]⟩
  have hlength : (finals log event.execution).length ≤ 1 := by
    have hcount := hl.final_once event.execution
    rw [finals, List.length_filterMap_eq_countP]
    refine Nat.le_trans (Nat.le_of_eq (List.countP_congr fun v _ => ?_)) hcount
    by_cases hx : v.execution = event.execution
    · simp [hx, Event.isFinal_iff]
    · simp [hx]
  obtain ⟨v, hv⟩ := List.length_eq_one_iff.mp
    (Nat.le_antisymm hlength (List.length_pos_of_mem hmem))
  rw [hv] at hmem ⊢
  rw [List.mem_singleton.mp hmem]

-- ### What the log says of an execution

-- The line of the start, some lines, and then those of the final entries.
def History.Tells (log : List Event) (y : Bookkeeping.Subject) (lines : List NewLog)
    (told : List Note) : Prop :=
  ∃ closing : List NewLog,
    told = (Bookkeeping.startLine y :: lines ++ closing).map NewLog.note ∧
      List.Forall₂ (fun entry level => ∃ message,
        entry = Bookkeeping.line y level .spiderRunner message) closing (finals log y.execution)

section Tells

variable {y : Bookkeeping.Subject} {lines : List NewLog} {told : List Note}

theorem History.Tells.start (hf : finals log y.execution = []) :
    Tells log y [] [(Bookkeeping.startLine y).note] :=
  ⟨[], rfl, by rw [hf]; exact .nil⟩

theorem History.Tells.quiet {o : Option Event} (h : Tells log y lines told)
    (ho : ∀ event ∈ o, event.execution = y.execution → event.isFinal = false) :
    Tells (log ++ o.toList) y lines told := by
  obtain ⟨closing, htold, hclosing⟩ := h
  exact ⟨closing, htold, by rwa [finals_quiet ho]⟩

-- Lines come before the last one.
theorem History.Tells.grow (h : Tells log y lines told) (hf : finals log y.execution = [])
    (added : List NewLog) : Tells log y (lines ++ added) (told ++ added.map NewLog.note) := by
  obtain ⟨closing, rfl, hclosing⟩ := h
  have hnil : closing = [] := by
    rw [hf] at hclosing
    exact List.forall₂_nil_right_iff.mp hclosing
  refine ⟨[], ?_, by rw [hf]; exact .nil⟩
  simp [hnil]

theorem History.Tells.close {level : LogLevel} (h : Tells log y lines told)
    (he : event.level? = some level) (hx : event.execution = y.execution) (message : String) :
    Tells (log ++ [event]) y lines
      (told ++ [(Bookkeeping.line y level .spiderRunner message).note]) := by
  obtain ⟨closing, rfl, hclosing⟩ := h
  refine ⟨closing ++ [Bookkeeping.line y level .spiderRunner message], by simp, ?_⟩
  rw [← hx, finals_concat he, hx]
  exact List.rel_append hclosing (.cons ⟨message, rfl⟩ .nil)

end Tells

-- ### Runs and what the log says of them

structure Run.Told (j : Nat) (r : Run) (child : Option Child) (log : List Event)
    (told : List Note) : Prop where
  fits : r.stage.Fits child
  settled : ∀ a x e, .settled j a x e ∈ log → e.Fits child
  tells : Tells log r.subject (r.stored child) told

theorem Run.Told.quiet {o : Option Event} {told : List Note} (h : r.Told j child log told)
    (ho : ∀ event ∈ o, event.party ≠ .run j)
    (hf : ∀ event ∈ o, event.execution = r.execution → event.isFinal = false) :
    r.Told j child (log ++ o.toList) told where
  fits := h.fits
  settled a x e hm := by
    rcases List.mem_append.mp hm with hm | hm
    · exact h.settled a x e hm
    · exact absurd rfl (ho _ (Option.mem_toList.mp hm))
  tells := h.tells.quiet hf

-- Before it claims its end a run has no last line, unless somebody has lost patience.
theorem Engine.Sound.not_finalised (hs : e.Sound s log) (hw : e.Waits log)
    (hj : e.runs[j]? = some r) (ho : r.stage.isOpen = true) (hx : ¬Hurried log r.execution) :
    ¬Finalised log r.execution := by
  have hnone := ((Run.stageAccords_of_isOpen ho).mp (hs.runs j r hj).stage).2
  rintro ⟨event, hm, hf, he⟩
  cases event with
  | settled i a y f =>
      cases he
      have hi := hs.sole hj (hs.hub.lawful.claimed_of_settled hm)
      exact hnone _ hm (by rw [hi]; rfl)
  | stopped k a y =>
      cases he
      rcases hw.stopped k a _ hm with hh | ⟨r', hr', hxr, hd⟩
      · exact hx hh
      · have hsame : r' = r :=
          List.inj_on_of_nodup_map hs.distinct hr' (List.mem_of_getElem? hj) hxr
        rw [← hsame, hd] at ho
        cases ho
  | _ => cases hf

theorem Engine.Sound.not_settled (hs : e.Sound s log) (hj : e.runs[j]? = some r)
    (hr : r.stage.isOpen = true ∨ ∃ f, r.stage = .claimed f) (a : Int) (x : String) (f : RunEnd) :
    .settled j a x f ∉ log := by
  intro hm
  have hstage := (hs.runs j r hj).stage
  rcases hr with ho | ⟨g, hg⟩
  · exact ((Run.stageAccords_of_isOpen ho).mp hstage).2 _ hm rfl
  · simp only [Run.StageAccords, hg] at hstage
    exact hstage.2.2 a x f hm

theorem Run.child?_of_closed {m : RunMove} (hr : r.stage.isOpen = false) :
    (r.step s m h).1.stage.child? = none := by
  obtain ⟨d, x, n, began, stage⟩ := r
  cases stage <;> first | rfl | cases hr

theorem Run.entries_of_closed (hr : r.stage.isOpen = false) : r.entries = [] := by
  obtain ⟨d, x, n, began, stage⟩ := r
  cases stage <;> first | rfl | cases hr

-- The run makes its last line.
theorem Engine.Sound.told_claimed {m : RunMove} {f : RunEnd} (hs : e.Sound s log)
    (hj : e.runs[j]? = some r) (hf : r.stage = .claimed f)
    (hwilling : e.hub.site.shared.Willing) (hid : e.hub.has r.spider.id = true)
    (h : r.Told j child log (e.hub.told r.execution)) :
    (r.step s m e.hub).1.Told j child (log ++ (r.event? j e.hub).toList)
      ((r.step s m e.hub).2.told r.execution) := by
  have haccords := (hs.runs j r hj).stage
  simp only [Run.StageAccords, hf] at haccords
  obtain ⟨message, hnotes⟩ := Run.notes_claimed (s := s) m hf haccords.2.1 hwilling hid
  have htold : (r.step s m e.hub).2.told r.execution = e.hub.told r.execution ++
      [(Bookkeeping.line r.subject f.level .spiderRunner message).note] :=
    Hub.told_of_about hnotes fun n hn => by rw [List.mem_singleton.mp hn]; rfl
  have hevent : r.event? j e.hub = some (.settled j r.spider.id r.execution f) := by
    simp only [Run.event?, hf]
  have hstep : (r.step s m e.hub).1 = { r with stage := .leaving } := by
    simp only [Run.step, Run.nextStage, hf, Run.stepClaimed]
  have hfits := h.fits
  have htells := h.tells
  rw [hf] at hfits
  rw [Run.stored, hf] at htells
  rw [htold, hevent, hstep]
  refine ⟨trivial, ?_, htells.close rfl rfl message⟩
  intro a y g hm
  rcases List.mem_append.mp hm with hm | hm
  · exact absurd hm (hs.not_settled hj (.inr ⟨f, hf⟩) a y g)
  · cases List.mem_singleton.mp hm
    exact hfits

-- Any other step of a run: the lines it stores come while there is no last line.
theorem Engine.Sound.told_onward {m : RunMove} (hs : e.Sound s log) (hw : e.Waits log)
    (hj : e.runs[j]? = some r) (hf : ∀ f, r.stage ≠ .claimed f)
    (hwilling : e.hub.site.shared.Willing) (hid : e.hub.has r.spider.id = true)
    (hm : ∀ error, m ≠ .lose error) (hx : ¬Hurried log r.execution)
    (h : r.Told j child log (e.hub.told r.execution)) :
    (r.step s m e.hub).1.Told j (child.or (r.step s m e.hub).1.stage.child?)
      (log ++ (r.event? j e.hub).toList) ((r.step s m e.hub).2.told r.execution) := by
  have hquiet (event : Event) (he : event ∈ r.event? j e.hub) : event.isFinal = false := by
    refine Bool.eq_false_iff.mpr fun hfinal => ?_
    obtain ⟨f, hstage⟩ := Run.stage_of_entry he (Event.isEntry_of_isFinal hfinal)
    exact hf f hstage
  have htold := Hub.told_of_about (Run.notes_step (s := s) m hwilling hid hf)
    fun n => Run.mem_entries
  have hold (a : Int) (x : String) (f : RunEnd)
      (hm : .settled j a x f ∈ log ++ (r.event? j e.hub).toList) : .settled j a x f ∈ log := by
    rcases List.mem_append.mp hm with hm | hm
    · exact hm
    · cases hquiet _ (Option.mem_toList.mp hm)
  have hstored := Run.step_stored (s := s) (h := e.hub) hm h.fits hwilling hid
  refine ⟨Run.step_fits hm h.fits, fun a x f hm => ?_, ?_⟩
  · cases ho : r.stage.isOpen with
    | true => exact absurd (hold a x f hm) (hs.not_settled hj (.inl ho) a x f)
    | false =>
        rw [Run.child?_of_closed ho, Option.or_none]
        exact h.settled a x f (hold a x f hm)
  · rw [hstored, htold]
    refine Tells.quiet ?_ fun event he _ => hquiet event he
    cases ho : r.stage.isOpen with
    | true => exact h.tells.grow (finals_eq_nil (hs.not_finalised hw hj ho hx)) r.entries
    | false =>
        rw [Run.entries_of_closed ho, List.map_nil, List.append_nil, List.append_nil]
        exact h.tells

end Spiderworks
