import Spiderworks.Proofs.Engine.ProgramDirectory

namespace Spiderworks

variable {s : Setup} {site : Site} {e : Engine} {d d' : Disk} {dir : List String} {x : String}
  {p : Stored}

-- ### Everyone at work

namespace Engine

def holders (e : Engine) : Holders :=
  e.runs.map (fun r => (r.execution, r.stage.program?)) ++
    e.calls.map fun c => (c.execution, c.stage.program?)

-- An execution has a program stored.
def Stores (e : Engine) (x : String) (p : Stored) : Prop :=
  (∃ r ∈ e.runs, r.execution = x ∧ r.stage.program? = some p) ∨
    ∃ c ∈ e.calls, c.execution = x ∧ c.stage.program? = some p

theorem mem_holders_iff : (x, some p) ∈ e.holders ↔ e.Stores x p := by
  simp [holders, Stores]

theorem map_holders :
    e.holders.map (·.1) = e.runs.map (·.execution) ++ e.calls.map (·.execution) := by
  simp [holders, Function.comp_def]

-- The processes of runs, and the logs of their streams, keep out of a directory.
structure LeavesAlone (s : Setup) (dir : List String) (e : Engine) : Prop where
  processes : ∀ r ∈ e.runs, ∀ p c, r.stage = .prepared p →
    s.platform.launch (r.launchOf s p) e.hub.site.disk = .ok c → ∀ name,
    (c.leaveFiles (r.outputDir s) e.hub.site.disk).file? (dir ++ [name]) =
      e.hub.site.disk.file? (dir ++ [name])
  logs : ∀ r ∈ e.runs, ∀ stream place,
    e.hub.site.disk.place (s.layout.streamLog r.spider.id r.execution stream) = .ok place →
    ∀ name, place ≠ dir ++ [name]

theorem calls_distinct (fresh : Function.Injective s.names) (site : Site) (actions : List Action) :
    (((ofSite site).perform s actions).calls.map (·.execution)).Nodup := by
  have hboth := perform_induction (s := s)
    (P := fun e log => e.Sound s log ∧ (e.calls.map (·.execution)).Nodup)
    ⟨Sound.init site, List.nodup_nil⟩ (fun e log a ⟨hsound, hcalls⟩ => ⟨hsound.act fresh a, ?_⟩)
    actions
  · exact hboth.2
  · cases a with
    | askStart spider | askStop spider | askWait spider | wait i => exact hcalls
    | askCall spider code =>
        simp only [act, askCall, List.map_append, List.map_cons, List.map_nil]
        refine List.nodup_append.mpr ⟨hcalls, List.nodup_singleton _, ?_⟩
        rintro x hx y hy rfl
        obtain ⟨c, hc, rfl⟩ := List.mem_map.mp hx
        obtain ⟨⟨m, hm, hname⟩, -⟩ := hsound.calls c hc
        have hy := List.mem_singleton.mp hy
        exact Nat.ne_of_lt hm (fresh (hname.trans hy))
    | start i =>
        simp only [act, moveStart]
        split <;> exact hcalls
    | run i m =>
        simp only [act, moveRun]
        split <;> exact hcalls
    | stop i m =>
        simp only [act, moveStop]
        split <;> exact hcalls
    | call i m =>
        simp only [act, moveCall]
        split
        · exact hcalls
        · rename_i c hi
          obtain ⟨hlt, hget⟩ := List.getElem?_eq_some_iff.mp hi
          have hlen : i < (e.calls.map (·.execution)).length := by simpa using hlt
          have hexecution : (c.step s m e.hub).1.execution = (e.calls.map (·.execution))[i] := by
            simp [hget, DirectCall.step]
          simp only
          rw [List.map_set, hexecution, List.set_getElem_self]
          exact hcalls

theorem named (fresh : Function.Injective s.names) (site : Site) (actions : List Action) :
    Holders.Named s ((ofSite site).perform s actions).holders := by
  have hsound := sound fresh site actions
  have hcalls := calls_distinct fresh site actions
  have hrun (r : Run) (hr : r ∈ ((ofSite site).perform s actions).runs) :
      ∃ i a n, .registered i a r.execution n ∈ (ofSite site).history s actions := by
    obtain ⟨j, hj⟩ := List.getElem?_of_mem hr
    obtain ⟨i, hi, -⟩ := (hsound.runs j r hj).begun
    exact ⟨i, _, _, hi⟩
  constructor
  · rw [map_holders]
    refine List.nodup_append.mpr ⟨hsound.distinct, hcalls, ?_⟩
    rintro x hx y hy rfl
    obtain ⟨r, hr, rfl⟩ := List.mem_map.mp hx
    obtain ⟨c, hc, hcx⟩ := List.mem_map.mp hy
    obtain ⟨i, a, n, hi⟩ := hrun r hr
    exact (hsound.calls c hc).2 i a n (hcx ▸ hi)
  · intro x hx
    rw [map_holders] at hx
    rcases List.mem_append.mp hx with hx | hx
    · obtain ⟨r, hr, rfl⟩ := List.mem_map.mp hx
      obtain ⟨i, a, n, hi⟩ := hrun r hr
      obtain ⟨m, -, hm⟩ := hsound.names i a _ n hi
      exact ⟨m, hm⟩
    · obtain ⟨c, hc, rfl⟩ := List.mem_map.mp hx
      obtain ⟨m, -, hm⟩ := (hsound.calls c hc).1
      exact ⟨m, hm⟩

-- ### Steps

theorem holders_moveRun {j : Nat} {r : Run} (hj : e.runs[j]? = some r) (m : RunMove) :
    e.holders[j]? = some (r.execution, r.stage.program?) ∧ (e.moveRun s j m).holders =
      e.holders.set j (r.execution, (r.step s m e.hub).1.stage.program?) := by
  obtain ⟨hlt, -⟩ := List.getElem?_eq_some_iff.mp hj
  have hlen : j < (e.runs.map fun r => (r.execution, r.stage.program?)).length := by simpa using hlt
  constructor
  · rw [holders, List.getElem?_append_left hlen, List.getElem?_map, hj]
    rfl
  · rw [moveRun, hj]
    simp only [holders]
    rw [List.map_set, List.set_append_left _ _ hlen]
    rfl

theorem holders_moveCall {i : Nat} {c : DirectCall} (hi : e.calls[i]? = some c) (m : DirectMove) :
    e.holders[e.runs.length + i]? = some (c.execution, c.stage.program?) ∧
      (e.moveCall s i m).holders = e.holders.set (e.runs.length + i)
        (c.execution, (c.step s m e.hub).1.stage.program?) := by
  have hlen : (e.runs.map fun r => (r.execution, r.stage.program?)).length ≤ e.runs.length + i := by
    simp
  have hsub : e.runs.length + i -
      (e.runs.map fun r => (r.execution, r.stage.program?)).length = i := by simp
  constructor
  · rw [holders, List.getElem?_append_right hlen, hsub, List.getElem?_map, hi]
    rfl
  · rw [moveCall, hi]
    simp only [holders]
    rw [List.map_set, List.set_append_right _ _ hlen, hsub]
    rfl

end Engine

theorem Shelved.leaves {initial : Disk} {holders : Holders} {r : Run}
    (h : Shelved s dir initial d holders) (hleaves : r.Leaves s d d')
    (hprocesses : ∀ p c, r.stage = .prepared p → s.platform.launch (r.launchOf s p) d = .ok c →
      ∀ name, (c.leaveFiles (r.outputDir s) d).file? (dir ++ [name]) = d.file? (dir ++ [name]))
    (hlogs : ∀ stream place,
      d'.place (s.layout.streamLog r.spider.id r.execution stream) = .ok place →
      ∀ name, place ≠ dir ++ [name]) : Shelved s dir initial d' holders := by
  cases hleaves with
  | directories hmade => exact h.spares hmade.toKeeps fun name => congrFun hmade.files _
  | files hp hlaunch => exact h.spares (Child.leaveFiles_keeps _ _ d) (hprocesses _ _ hp hlaunch)
  | log hwrite =>
      obtain ⟨place, hplace, hother⟩ := Disk.file?_writeWithParents hwrite
      exact h.spares (.writeWithParents hwrite) fun name =>
        hother _ fun heq => hlogs _ place hplace name heq.symm

namespace Engine

theorem act_shelved (hdir : s.ProgramDirectory site.disk dir) (hremoves : s.RemovesPrograms)
    (hnamed : Holders.Named s e.holders) (halone : e.LeavesAlone s dir) (a : Action)
    (hnext : (e.act s a).LeavesAlone s dir)
    (h : Shelved s dir site.disk e.hub.site.disk e.holders) :
    Shelved s dir site.disk (e.act s a).hub.site.disk (e.act s a).holders := by
  cases a with
  | askStart spider | askStop spider | askWait spider | wait i => exact h
  | askCall spider code =>
      refine h.same fun x p => ?_
      simp [holders, act, askCall, DirectStage.program?]
  | start i =>
      simp only [act, moveStart]
      split
      · exact h
      · rename_i c hi
        rw [c.step_disk e.hub]
        refine h.same fun x p => ?_
        cases hrun : (c.step s e.hub).2.1 with
        | none => simp [holders]
        | some r => simp [holders, StartCall.program?_run hrun]
  | stop i m =>
      simp only [act, moveStop]
      split
      · exact h
      · rename_i c hi
        rw [c.step_disk m e.hub]
        exact h
  | call i m =>
      cases hi : e.calls[i]? with
      | none =>
          rw [act, moveCall, hi]
          exact h
      | some c =>
          obtain ⟨hk, hholders⟩ := holders_moveCall (s := s) hi m
          obtain ⟨spider, hstep⟩ := c.step_disk (s := s) m e.hub
          have hdisk : (e.moveCall s i m).hub.site.disk = (c.step s m e.hub).2.site.disk := by
            rw [moveCall, hi]
          rw [act, hholders, hdisk]
          exact h.handles hdir hremoves hnamed hk hstep
  | run j m =>
      cases hj : e.runs[j]? with
      | none =>
          rw [act, moveRun, hj]
          exact h
      | some r =>
          obtain ⟨hk, hholders⟩ := holders_moveRun (s := s) hj m
          have hdisk : (e.moveRun s j m).hub.site.disk = (r.step s m e.hub).2.site.disk := by
            rw [moveRun, hj]
          rw [act] at hnext ⊢
          rw [hholders]
          rcases r.step_disk (s := s) m e.hub with hstep | ⟨hprogram, hleaves⟩
          · rw [hdisk]
            exact h.handles hdir hremoves hnamed hk hstep
          · obtain ⟨hlt, hget⟩ := List.getElem?_eq_some_iff.mp hk
            rw [hprogram, ← hget, List.set_getElem_self]
            rw [← hdisk] at hleaves
            refine h.leaves hleaves (halone.processes r (List.mem_of_getElem? hj)) ?_
            refine hnext.logs (r.step s m e.hub).1 ?_
            rw [moveRun, hj]
            exact List.mem_set (List.getElem?_eq_some_iff.mp hj).1 _

theorem shelved (hdir : s.ProgramDirectory site.disk dir) (hremoves : s.RemovesPrograms)
    (actions : List Action)
    (halone : ∀ done, done <+: actions → ((ofSite site).perform s done).LeavesAlone s dir) :
    Shelved s dir site.disk ((ofSite site).perform s actions).hub.site.disk
      ((ofSite site).perform s actions).holders := by
  induction actions using List.reverseRecOn with
  | nil => exact ⟨.refl _, nofun, fun name bytes => by simp [holders, ofSite, Hub.ofSite]⟩
  | append_singleton actions a ih =>
      have hbefore := ih fun done hdone => halone done (hdone.trans (List.prefix_append _ _))
      have hnext := halone _ (List.prefix_refl _)
      rw [perform_append] at hnext ⊢
      exact act_shelved hdir hremoves (named hdir.fresh site actions)
        (halone actions (List.prefix_append _ _)) a hnext hbefore

-- ### Disks without links

theorem linkless_act (h : e.hub.site.disk.Linkless) (a : Action) :
    (e.act s a).hub.site.disk.Linkless := by
  cases a with
  | askStart spider | askStop spider | askCall spider code | askWait spider | wait i => exact h
  | start i =>
      simp only [act, moveStart]
      split
      · exact h
      · rename_i c hi
        rwa [c.step_disk e.hub]
  | stop i m =>
      simp only [act, moveStop]
      split
      · exact h
      · rename_i c hi
        rwa [c.step_disk m e.hub]
  | call i m =>
      simp only [act, moveCall]
      split
      · exact h
      · rename_i c hi
        obtain ⟨spider, hstep⟩ := c.step_disk (s := s) m e.hub
        exact hstep.linkless h
  | run j m =>
      simp only [act, moveRun]
      split
      · exact h
      · rename_i r hj
        rcases r.step_disk (s := s) m e.hub with hstep | ⟨-, hleaves⟩
        · exact hstep.linkless h
        · exact hleaves.linkless h

theorem linkless (h : site.disk.Linkless) (actions : List Action) :
    ((ofSite site).perform s actions).hub.site.disk.Linkless :=
  perform_induction (s := s) (P := fun e _ => e.hub.site.disk.Linkless) h
    (fun _ _ a h => linkless_act h a) actions

-- On a disk without links the logs keep out of the directory of programs unless it is the very
-- directory for the logs of a spider; and processes that leave no files keep out of it anyway.
theorem leavesAlone_of_linkless (hdir : s.ProgramDirectory site.disk dir)
    (hlinks : site.disk.Linkless) (hlogs : ".." ∉ Path.parts s.layout.logs)
    (helsewhere : ∀ spider, dir ≠ Path.parts s.layout.logs ++ [Layout.spiderName spider])
    (hsilent : ∀ l d c, s.platform l d = .ok c → c.files = []) (actions : List Action) :
    ((ofSite site).perform s actions).LeavesAlone s dir where
  processes r _ p c _ hlaunch name := by
    have hfiles : c.files = [] := by
      unfold Platform.launch at hlaunch
      split at hlaunch
      · cases hlaunch
      · exact hsilent _ _ _ hlaunch
    rw [Child.leaveFiles, hfiles, List.foldl_nil]
  logs r hr stream place hplace name heq := by
    have hx : '/' ∉ r.execution.toList := by
      have hnamed := named (s := s) hdir.fresh site actions
      obtain ⟨n, hn⟩ := hnamed.names r.execution (by
        rw [map_holders]
        exact List.mem_append_left _ (List.mem_map_of_mem hr))
      exact hn ▸ hdir.plain n
    have hparts : Path.parts (s.layout.streamLog r.spider.id r.execution stream) =
        Path.parts s.layout.logs ++ [Layout.spiderName r.spider.id] ++
          [Layout.logName r.execution stream] := Layout.parts_streamLog hx
    have hup : ".." ∉ Path.parts (s.layout.streamLog r.spider.id r.execution stream) := by
      rw [hparts]
      simp [hlogs, Ne.symm Layout.spiderName_ne_up, Ne.symm Layout.logName_ne_up]
    have hlast := (linkless hlinks actions).place_eq hup hplace
    rw [heq, hparts] at hlast
    exact helsewhere _ (List.append_inj_left' hlast rfl)

-- ### Before and after a run or a call

-- No file in the directory has the name of a program of this execution.
def Gone (dir : List String) (e : Engine) (x : String) : Prop :=
  ∀ spider, ∀ extension ∈ programExtensions,
    e.hub.site.disk.file? (dir ++ [Layout.programName spider x extension]) = none

-- Whatever has come to the directory, or has gone from it, is a program of another execution.
def ChangedByOthers (dir : List String) (before after : Engine) (x : String) : Prop :=
  ∀ name, after.hub.site.disk.file? (dir ++ [name]) ≠ before.hub.site.disk.file? (dir ++ [name]) →
    ∃ y p, y ≠ x ∧ (before.Stores y p ∨ after.Stores y p) ∧ Path.fileName? p.path = some name

theorem holders_of_run {r : Run} (hr : r ∈ e.runs) (hdone : r.stage = .done) :
    (r.execution, none) ∈ e.holders :=
  List.mem_append_left _ (List.mem_map.mpr ⟨r, hr, by rw [hdone]; rfl⟩)

theorem holders_of_call {c : DirectCall} (hc : c ∈ e.calls) (hdone : c.result?.isSome = true) :
    (c.execution, none) ∈ e.holders := by
  refine List.mem_append_right _ (List.mem_map.mpr ⟨c, hc, ?_⟩)
  obtain ⟨spider, code, x, began, stage⟩ := c
  cases stage <;> first | rfl | cases hdone

-- Executions have names of their own, so nobody else stores a program for this one.
theorem not_stores (hnamed : Holders.Named s e.holders) (hnone : (x, none) ∈ e.holders)
    (p : Stored) : ¬e.Stores x p := by
  intro hstores
  have heq := List.inj_on_of_nodup_map hnamed.distinct hnone (mem_holders_iff.mpr hstores) rfl
  cases heq

-- A file of an execution without a program is neither an old one nor that of another.
theorem gone (hdir : s.ProgramDirectory site.disk dir) (hnamed : Holders.Named s e.holders)
    (h : Shelved s dir site.disk e.hub.site.disk e.holders) (hnone : (x, none) ∈ e.holders) :
    e.Gone dir x := by
  intro spider extension hextension
  have hnothing := not_stores hnamed hnone
  obtain ⟨n, rfl⟩ := hnamed.names x (List.mem_map_of_mem hnone)
  refine Option.eq_none_iff_forall_ne_some.mpr fun bytes hfile => ?_
  rcases (h.files _ bytes).mp hfile with hold | ⟨y, p, hp, hname, -⟩
  · rw [Disk.file?, hdir.free n spider extension hextension] at hold
    cases hold
  · obtain ⟨spider', hplaced⟩ := h.placed y p hp
    obtain ⟨m, rfl⟩ := hnamed.names y (List.mem_map.mpr ⟨_, hp, rfl⟩)
    refine hplaced.fileName?_ne (hdir.plain m) (fun heq => ?_) hextension hname
    exact hnothing p (mem_holders_iff.mp (heq ▸ hp))

theorem changedByOthers {before after : Engine}
    (hbefore : Shelved s dir site.disk before.hub.site.disk before.holders)
    (hafter : Shelved s dir site.disk after.hub.site.disk after.holders)
    (hnone : ∀ p, ¬before.Stores x p) (hnone' : ∀ p, ¬after.Stores x p) :
    ChangedByOthers dir before after x := by
  intro name hchanged
  by_contra hothers
  refine hchanged (Option.ext fun bytes => ?_)
  rw [hafter.files, hbefore.files]
  have hunnamed (y : String) (p : Stored) (hp : before.Stores y p ∨ after.Stores y p) :
      Path.fileName? p.path ≠ some name := by
    intro hname
    refine hothers ⟨y, p, fun hy => ?_, hp, hname⟩
    subst hy
    exact hp.elim (hnone p) (hnone' p)
  refine or_congr_right (iff_of_false ?_ ?_)
  · rintro ⟨y, p, hp, hname, -⟩
    exact hunnamed y p (.inr (mem_holders_iff.mp hp)) hname
  · rintro ⟨y, p, hp, hname, -⟩
    exact hunnamed y p (.inl (mem_holders_iff.mp hp)) hname

-- The files in the directory of programs are those that were there at first and the programs that
-- are stored. A run that has ended and a call that has returned leave none behind, whatever their
-- end was: since any moment at which they had none, only programs of other executions have come or
-- gone. When nobody is at work any more, the directory is as it was at first.
theorem programs_taken_away (hdir : s.ProgramDirectory site.disk dir)
    (hremoves : s.RemovesPrograms) (before since : List Action)
    (halone : ∀ done, done <+: before ++ since → ((ofSite site).perform s done).LeavesAlone s dir) :
    let e := (ofSite site).perform s before
    let e' := (ofSite site).perform s (before ++ since)
    (∀ name bytes, e'.hub.site.disk.file? (dir ++ [name]) = some bytes ↔
      site.disk.file? (dir ++ [name]) = some bytes ∨
        ∃ x p, e'.Stores x p ∧ Path.fileName? p.path = some name ∧ p.bytes = bytes) ∧
    (∀ r ∈ e'.runs, r.stage = .done → e'.Gone dir r.execution ∧
      ((∀ p, ¬e.Stores r.execution p) → ChangedByOthers dir e e' r.execution)) ∧
    (∀ c ∈ e'.calls, c.result?.isSome = true → e'.Gone dir c.execution ∧
      ((∀ p, ¬e.Stores c.execution p) → ChangedByOthers dir e e' c.execution)) ∧
    ((∀ r ∈ e'.runs, r.stage = .done) → (∀ c ∈ e'.calls, c.result?.isSome = true) →
      ∀ name, e'.hub.site.disk.file? (dir ++ [name]) = site.disk.file? (dir ++ [name])) := by
  intro e e'
  have hbefore := shelved hdir hremoves before fun done hdone => halone done
    (hdone.trans (List.prefix_append _ _))
  have hafter := shelved hdir hremoves (before ++ since) halone
  have hnamed := named (s := s) hdir.fresh site (before ++ since)
  have ended {x : String} (hnone : (x, none) ∈ e'.holders) :
      e'.Gone dir x ∧ ((∀ p, ¬e.Stores x p) → ChangedByOthers dir e e' x) :=
    ⟨gone hdir hnamed hafter hnone,
      fun hearlier => changedByOthers hbefore hafter hearlier (not_stores hnamed hnone)⟩
  refine ⟨fun name bytes => ?_, fun r hr hdone => ended (holders_of_run hr hdone),
    fun c hc hdone => ended (holders_of_call hc hdone), fun hruns hcalls name => ?_⟩
  · rw [hafter.files]
    simp only [mem_holders_iff]
    exact Iff.rfl
  · refine Option.ext fun bytes => ?_
    rw [hafter.files]
    refine or_iff_left ?_
    rintro ⟨x, p, hp, -⟩
    have hstores := mem_holders_iff.mp hp
    rcases hstores with ⟨r, hr, rfl, -⟩ | ⟨c, hc, rfl, -⟩
    · exact not_stores hnamed (holders_of_run hr (hruns r hr)) p (mem_holders_iff.mp hp)
    · exact not_stores hnamed (holders_of_call hc (hcalls c hc)) p (mem_holders_iff.mp hp)

end Engine

-- ### An engine whose processes speak

def speaker : Child := ⟨[104, 105], [], [], .ends (.exited 0)⟩

def Setup.speaking (scripts : String) : Setup := { Setup.small with
  layout := ⟨"/files", "/logs", scripts⟩
  platform := fun _ _ => .ok speaker
  names := fun n => String.ofList (List.replicate (n + 1) 'x') }

def Site.furnished : Site :=
  ⟨⟨[(["files"], .directory), (["files", "spider_1"], .directory), (["logs"], .directory),
    (["logs", "spider_1"], .directory), (["scripts"], .directory)]⟩, Site.small.shared⟩

theorem Setup.speaking_directory {scripts : String}
    (hopens : Site.furnished.disk.Opens scripts dir)
    (hfree : ∀ name, Site.furnished.disk.node? (dir ++ [name]) = none) :
    (Setup.speaking scripts).ProgramDirectory Site.furnished.disk dir where
  opens := hopens
  fresh m n h := by simpa [Setup.speaking] using congrArg String.length h
  plain n := by simp [Setup.speaking]
  free n spider extension _ := hfree _

theorem Site.furnished_linkless : Site.furnished.disk.Linkless := by
  intro place target hnode
  by_cases hroot : place = []
  · rw [hroot] at hnode
    cases hnode
  · have hmem := Disk.mem_of_node? hroot hnode
    simp [Site.furnished] at hmem

-- A run from its start to its end, and a call.
def Engine.speakOut : List Action :=
  .askStart 1 :: List.replicate 4 (.start 0) ++ List.replicate 15 (.run 0 .onward) ++
    .askCall 1 none :: List.replicate 4 (.call 0 .onward)

theorem Engine.programs_taken_away_speaking :
    (Setup.speaking "/scripts").ProgramDirectory Site.furnished.disk ["scripts"] ∧
    (Setup.speaking "/scripts").RemovesPrograms ∧
    (∀ done, done <+: speakOut →
      ((ofSite .furnished).perform (.speaking "/scripts") done).LeavesAlone (.speaking "/scripts")
        ["scripts"]) ∧
    ∀ name bytes, ((ofSite .furnished).perform (.speaking "/scripts") speakOut).hub.site.disk.file?
        (["scripts"] ++ [name]) = some bytes →
      ∃ x p, ((ofSite .furnished).perform (.speaking "/scripts") speakOut).Stores x p ∧
        Path.fileName? p.path = some name ∧ p.bytes = bytes := by
  have hopens : Site.furnished.disk.Opens "/scripts" ["scripts"] :=
    ⟨by decide +kernel, rfl⟩
  have hfree (name : String) : Site.furnished.disk.node? (["scripts"] ++ [name]) = none := by
    simp [Disk.node?, Site.furnished]
  have hdir := Setup.speaking_directory hopens hfree
  have halone (done : List Action) (_ : done <+: speakOut) :
      ((ofSite .furnished).perform (.speaking "/scripts") done).LeavesAlone (.speaking "/scripts")
        ["scripts"] := by
    refine leavesAlone_of_linkless hdir Site.furnished_linkless (by decide)
      (fun spider heq => ?_) ?_ done
    · have hparts : Path.parts (Setup.speaking "/scripts").layout.logs = ["logs"] := by decide
      simp [hparts] at heq
    · intro l d c hc
      cases hc
      rfl
  have hremoves : (Setup.speaking "/scripts").RemovesPrograms := fun _ _ _ _ _ _ => rfl
  refine ⟨hdir, hremoves, halone, fun name bytes hfile => ?_⟩
  have hfiles := (programs_taken_away hdir hremoves [] speakOut halone).1 name bytes
  rw [List.nil_append] at hfiles
  refine (hfiles.mp hfile).resolve_left ?_
  rw [Disk.file?, hfree]
  exact (Option.some_ne_none bytes).symm


-- ### Logs in the directory of programs

def RunStage.isDone : RunStage → Bool
  | .done => true
  | _ => false

theorem RunStage.eq_done_of_isDone {stage : RunStage} (h : stage.isDone = true) :
    stage = .done := by
  cases stage <;> first | rfl | cases h

def Engine.lonelyRun : List Action :=
  .askStart 1 :: List.replicate 4 (.start 0) ++ List.replicate 15 (.run 0 .onward)

-- Where the directory of programs is the one for the logs of the spider, the log of a stream comes
-- to stay in it.
theorem Engine.log_among_programs :
    (Setup.speaking "/logs/spider_1").ProgramDirectory Site.furnished.disk ["logs", "spider_1"] ∧
    (∀ directory d, speaker.leaveFiles directory d = d) ∧
    (((ofSite .furnished).perform (.speaking "/logs/spider_1") lonelyRun).runs.map
      (·.execution) = ["x"] ∧
    (∀ r ∈ ((ofSite .furnished).perform (.speaking "/logs/spider_1") lonelyRun).runs,
      r.stage = .done) ∧
    ((ofSite .furnished).perform (.speaking "/logs/spider_1") lonelyRun).calls = []) ∧
    Site.furnished.disk.file? ["logs", "spider_1", "x_stdout.log"] = none ∧
    ((ofSite .furnished).perform (.speaking "/logs/spider_1") lonelyRun).hub.site.disk.file?
      ["logs", "spider_1", "x_stdout.log"] = some [104, 105] := by
  have hfree (name : String) :
      Site.furnished.disk.node? (["logs", "spider_1"] ++ [name]) = none := by
    simp [Disk.node?, Site.furnished]
  have hopens : Site.furnished.disk.Opens "/logs/spider_1" ["logs", "spider_1"] :=
    ⟨by decide +kernel, rfl⟩
  have hdone : ((ofSite .furnished).perform (.speaking "/logs/spider_1") lonelyRun).runs.all
      (·.stage.isDone) = true := by
    decide +kernel
  have hcalls : ((ofSite .furnished).perform (.speaking "/logs/spider_1")
      lonelyRun).calls.isEmpty = true := by
    decide +kernel
  refine ⟨Setup.speaking_directory hopens hfree, fun _ _ => rfl,
    ⟨by decide +kernel, fun r hr => ?_, List.isEmpty_iff.mp hcalls⟩, by decide, by decide +kernel⟩
  exact RunStage.eq_done_of_isDone (List.all_eq_true.mp hdone r hr)

end Spiderworks
