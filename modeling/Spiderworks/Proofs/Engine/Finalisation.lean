import Spiderworks.Proofs.Engine.Entries

namespace Spiderworks

open History

variable {log : List Event} {s : Setup} {e : Engine} {i j k : Nat} {a : Int} {x : String}

-- ### Whose step makes the entry of a task

theorem Run.stage_of_settled {r : Run} {h : Hub} {f : RunEnd}
    (he : .settled i a x f ∈ r.event? j h) :
    i = j ∧ r.spider.id = a ∧ r.execution = x ∧ r.stage = .claimed f := by
  obtain ⟨g, hg⟩ := Run.stage_of_entry he rfl
  simp only [event?, hg] at he
  cases he
  exact ⟨rfl, rfl, rfl, hg⟩

theorem Engine.run_of_settled {action : Action} {f : RunEnd}
    (he : .settled j a x f ∈ e.event? s action) : ∃ r m, action = .run j m ∧
      e.runs[j]? = some r ∧ r.spider.id = a ∧ r.execution = x ∧ r.stage = .claimed f := by
  have hparty := Engine.party_of_event he
  cases action with
  | run i m =>
      obtain ⟨r, hi, hr⟩ := Option.bind_eq_some_iff.mp he
      obtain ⟨rfl, ha, hx, hf⟩ := Run.stage_of_settled hr
      exact ⟨r, m, rfl, hi, ha, hx, hf⟩
  | _ => cases hparty

-- ### The end of a run

-- Once a run has come to its end, it keeps to it.
def RunStage.EndsWith (f : RunEnd) (stage : RunStage) : Prop :=
  stage.end? = some f ∨ stage.end? = none ∧ stage.isOpen = false

def Engine.EndsWith (e : Engine) (j : Nat) (f : RunEnd) : Prop :=
  ∃ r, e.runs[j]? = some r ∧ r.stage.EndsWith f

theorem RunStage.EndsWith.eq {f g : RunEnd} {stage : RunStage} (h : stage.EndsWith f)
    (hg : stage.end? = some g) : g = f := by
  rcases h with h | ⟨h, -⟩
  · exact Option.some.inj (hg.symm.trans h)
  · cases hg.symm.trans h

theorem Run.step_end {r : Run} {h : Hub} {f : RunEnd} (m : RunMove) (hr : r.stage.EndsWith f) :
    (r.step s m h).1.stage.EndsWith f := by
  obtain ⟨d, y, n, began, stage⟩ := r
  cases stage with
  | saving p chores g =>
      cases chores with
      | nil => exact hr
      | cons c rest =>
          simp only [step, nextStage, stepSaving]
          split <;> exact hr
  | scanning p g => exact hr
  | registering p files g =>
      cases files with
      | nil => exact hr
      | cons file rest =>
          simp only [step, nextStage, stepRegistering]
          split <;> exact hr
  | ended g =>
      cases g with
      | stopped => exact .inr ⟨rfl, rfl⟩
      | exited o =>
          simp only [step, nextStage, stepEnded]
          split
          · exact .inl (congrArg some (hr.eq rfl))
          · exact .inr ⟨rfl, rfl⟩
      | failed g =>
          simp only [step, nextStage, stepEnded]
          split
          · exact .inl (congrArg some (hr.eq rfl))
          · exact .inr ⟨rfl, rfl⟩
  | claimed g => exact .inr ⟨rfl, rfl⟩
  | leaving => exact .inr ⟨rfl, rfl⟩
  | signing => exact .inr ⟨rfl, rfl⟩
  | done => exact hr
  | _ =>
      rcases hr with hr | ⟨-, hr⟩
      · cases hr
      · cases hr

theorem Engine.EndsWith.act {f : RunEnd} (h : e.EndsWith j f) (action : Action) :
    (e.act s action).EndsWith j f := by
  obtain ⟨r, hj, hr⟩ := h
  cases action with
  | start i =>
      simp only [Engine.act, moveStart]
      split
      · exact ⟨r, hj, hr⟩
      · refine ⟨r, ?_, hr⟩
        rw [List.getElem?_append_left (List.getElem?_eq_some_iff.mp hj).1]
        exact hj
  | run i m =>
      simp only [Engine.act, moveRun]
      split
      · exact ⟨r, hj, hr⟩
      · rename_i r' hi
        by_cases hij : i = j
        · subst hij
          cases hi.symm.trans hj
          refine ⟨(r.step s m e.hub).1, ?_, Run.step_end m hr⟩
          rw [List.getElem?_set_self', hj]
          rfl
        · exact ⟨r, by rw [List.getElem?_set_ne hij]; exact hj, hr⟩
  | stop k m =>
      simp only [Engine.act, moveStop]
      split <;> exact ⟨r, hj, hr⟩
  | call i m =>
      simp only [Engine.act, moveCall]
      split <;> exact ⟨r, hj, hr⟩
  | _ => exact ⟨r, hj, hr⟩

theorem Engine.EndsWith.settled {f g : RunEnd} (h : e.EndsWith j f) (actions : List Action)
    (hs : .settled j a x g ∈ e.history s actions) : g = f := by
  induction actions generalizing e with
  | nil => cases hs
  | cons action rest ih =>
      rcases List.mem_append.mp hs with hs | hs
      · obtain ⟨r, m, rfl, hj, -, -, hg⟩ := Engine.run_of_settled (Option.mem_toList.mp hs)
        obtain ⟨r', hj', hr'⟩ := h
        cases hj.symm.trans hj'
        exact hr'.eq (by rw [hg]; rfl)
      · exact ih (h.act action) hs

-- ### Direct calls

end Spiderworks
