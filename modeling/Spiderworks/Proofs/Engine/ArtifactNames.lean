import Spiderworks.Engine.Layout
import Spiderworks.Proofs.Disk.Paths
import Spiderworks.Proofs.Text.Digits

namespace Spiderworks

variable {α : Type} {c : α} {before before' after after' : List α}

-- What stands before the first of a kind, and what stands after it, is told from the whole.
theorem eq_of_append_cons (hbefore : c ∉ before) (hbefore' : c ∉ before')
    (h : before ++ c :: after = before' ++ c :: after') : before = before' ∧ after = after' := by
  rcases List.append_eq_append_iff.mp h with ⟨more, rfl, hmore⟩ | ⟨more, rfl, hmore⟩
  · cases more with
    | nil => simpa using hmore
    | cons d more =>
        cases hmore
        simp at hbefore'
  · cases more with
    | nil => simpa [eq_comm] using hmore
    | cons d more =>
        cases hmore
        simp at hbefore

-- The same for the last of a kind.
theorem eq_of_append_cons_last (hafter : c ∉ after) (hafter' : c ∉ after')
    (h : before ++ c :: after = before' ++ c :: after') : before = before' ∧ after = after' := by
  have hback := congrArg List.reverse h
  simp only [List.reverse_append, List.reverse_cons, List.append_assoc,
    List.singleton_append] at hback
  obtain ⟨hlast, hfirst⟩ := eq_of_append_cons (mt List.mem_reverse.mp hafter)
    (mt List.mem_reverse.mp hafter') hback
  exact ⟨List.reverse_injective hfirst, List.reverse_injective hlast⟩

theorem Stream.name_injective : Function.Injective name := by
  intro stream stream' h
  cases stream <;> cases stream' <;> simp [name] at h ⊢

namespace Layout

def logName (execution : String) (stream : Stream) : String :=
  execution ++ "_" ++ stream.name ++ ".log"

def programName (spider : Int) (execution extension : String) : String :=
  spiderName spider ++ "_" ++ execution ++ "." ++ extension

variable {l : Layout} {spider spider' : Int} {execution execution' extension extension' : String}
  {stream : Stream}

-- ### Programs

theorem toList_programName : (programName spider execution extension).toList =
    ("spider_".toList ++ Text.ofInt spider) ++
      '_' :: (execution.toList ++ '.' :: extension.toList) := by
  simp [programName, spiderName]

theorem notMem_programName {c : Char} (hdigit : Text.isDigit c = false)
    (hmarks : c ∉ "spider_-.".toList) (hexecution : c ∉ execution.toList)
    (hextension : c ∉ extension.toList) : c ∉ (programName spider execution extension).toList := by
  have hspider := Text.notMem_ofInt hdigit (fun h => hmarks (by simp [h])) spider
  rw [toList_programName]
  simp_all

theorem isPart_programName (hexecution : '/' ∉ execution.toList)
    (hextension : '/' ∉ extension.toList) :
    Path.IsPart (programName spider execution extension) where
  nonempty h := by simpa [toList_programName] using congrArg String.toList h
  dot h := by simpa [toList_programName] using congrArg String.toList h
  slash := notMem_programName (by decide) (by decide) hexecution hextension

theorem programName_ne_up : programName spider execution extension ≠ ".." := by
  intro h
  simpa [toList_programName] using congrArg String.toList h

theorem parts_script (hexecution : '/' ∉ execution.toList) (hextension : '/' ∉ extension.toList) :
    Path.parts (l.script spider execution extension) =
      Path.parts l.scripts ++ [programName spider execution extension] := by
  change Path.parts (Path.join l.scripts (programName spider execution extension)) = _
  rw [(isPart_programName hexecution hextension).parts_join]

theorem fileName?_script (hexecution : '/' ∉ execution.toList)
    (hextension : '/' ∉ extension.toList) : Path.fileName? (l.script spider execution extension) =
      some (programName spider execution extension) := by
  rw [Path.fileName?, parts_script hexecution hextension, List.getLast?_concat]
  simp [programName_ne_up]

-- An execution may have underscores and dots in its name, a number has no underscore and an
-- extension no dot.
theorem programName_inj (hextension : '.' ∉ extension.toList)
    (hextension' : '.' ∉ extension'.toList)
    (h : programName spider execution extension = programName spider' execution' extension') :
    spider = spider' ∧ execution = execution' ∧ extension = extension' := by
  have hlist := congrArg String.toList h
  simp only [toList_programName, List.append_assoc, List.append_cancel_left_eq] at hlist
  obtain ⟨hspider, hrest⟩ := eq_of_append_cons (Text.notMem_ofInt (by decide) (by decide) spider)
    (Text.notMem_ofInt (by decide) (by decide) spider') hlist
  obtain ⟨hexecution, hextensions⟩ := eq_of_append_cons_last hextension hextension' hrest
  exact ⟨Text.ofInt_injective hspider, String.toList_injective hexecution,
    String.toList_injective hextensions⟩

-- ### Directories of spiders

theorem spiderName_injective : Function.Injective spiderName := fun spider spider' h => by
  have hlist := congrArg String.toList h
  simp only [spiderName, String.toList_append, String.toList_ofList,
    List.append_cancel_left_eq] at hlist
  exact Text.ofInt_injective hlist

theorem isPart_spiderName : Path.IsPart (spiderName spider) where
  nonempty h := by simpa [spiderName] using congrArg String.toList h
  dot h := by simpa [spiderName] using congrArg String.toList h
  slash := by
    have hspider := Text.notMem_ofInt (c := '/') (by decide) (by decide) spider
    simp [spiderName, hspider]

theorem spiderName_ne_up : spiderName spider ≠ ".." := fun h => by
  simpa [spiderName] using congrArg String.toList h

-- ### Logs

theorem toList_logName : (logName execution stream).toList =
    execution.toList ++ '_' :: (stream.name.toList ++ ".log".toList) := by
  simp [logName]

theorem isPart_logName (hexecution : '/' ∉ execution.toList) :
    Path.IsPart (logName execution stream) where
  nonempty h := by simpa [toList_logName] using congrArg String.toList h
  dot h := by
    have hlast := congrArg (List.getLast? ∘ String.toList) h
    cases stream <;> simp [toList_logName, Stream.name] at hlast
  slash := by
    rw [toList_logName]
    cases stream <;> simp [Stream.name, hexecution]

theorem logName_ne_up : logName execution stream ≠ ".." := fun h => by
  have hlast := congrArg (List.getLast? ∘ String.toList) h
  cases stream <;> simp [toList_logName, Stream.name] at hlast

-- The last underscore stands before the stream.
theorem logName_inj {stream' : Stream} (h : logName execution stream = logName execution' stream') :
    execution = execution' ∧ stream = stream' := by
  have hname (s : Stream) : '_' ∉ s.name.toList ++ ".log".toList := by cases s <;> decide
  have hlist := congrArg String.toList h
  rw [toList_logName, toList_logName] at hlist
  obtain ⟨hexecution, hstream⟩ := eq_of_append_cons_last (hname stream) (hname stream') hlist
  exact ⟨String.toList_injective hexecution,
    Stream.name_injective (String.toList_injective (List.append_cancel_right hstream))⟩

theorem parts_streamLog (hexecution : '/' ∉ execution.toList) :
    Path.parts (l.streamLog spider execution stream) =
      Path.parts l.logs ++ [spiderName spider] ++ [logName execution stream] := by
  change Path.parts (Path.join (Path.join l.logs (spiderName spider))
    (logName execution stream)) = _
  rw [(isPart_logName hexecution).parts_join, isPart_spiderName.parts_join]

-- ### Output directories

theorem parts_outputDir (hexecution : Path.IsPart execution) :
    Path.parts (l.outputDir spider execution) =
      Path.parts l.files ++ [spiderName spider] ++ [execution] := by
  rw [outputDir, hexecution.parts_join, isPart_spiderName.parts_join]

end Layout

end Spiderworks
