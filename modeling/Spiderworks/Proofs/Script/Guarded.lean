import Spiderworks.Proofs.Script.Language

namespace Spiderworks.Script

variable {line s t l : List Char} {c : Char}

-- ### Physical lines of a text in parts

theorem physicalLinesAfter_end (hc : c = '\n' ∨ c = '\r') (ht : ∀ r, c = '\r' → t ≠ '\n' :: r)
    (line : List Char) : physicalLinesAfter line (c :: t) = line.reverse :: physicalLines t := by
  rw [physicalLinesAfter.eq_3 line c t ht, if_pos hc]
  rfl

theorem physicalLinesAfter_append_newline (line s t : List Char) :
    physicalLinesAfter line (s ++ '\n' :: t) =
      physicalLinesAfter line (s ++ ['\n']) ++ physicalLines t := by
  fun_induction physicalLinesAfter line s with
  | case1 | case2 => rfl
  | case3 line rest ih => exact congrArg (line.reverse :: ·) ih
  | case4 line c rest hnot hc ih =>
      cases rest with
      | nil => rcases hc with rfl | rfl <;> rfl
      | cons d rest =>
          have hend (u : List Char) : ∀ r, c = '\r' → d :: u ≠ '\n' :: r := fun r hr hd =>
            hnot rest hr (by rw [(List.cons.inj hd).1])
          simp only [List.cons_append]
          rw [physicalLinesAfter_end hc (hend _), physicalLinesAfter_end hc (hend _)]
          exact congrArg (line.reverse :: ·) ih
  | case5 line c rest hnot hc ih =>
      have hplain : c ≠ '\n' ∧ c ≠ '\r' := not_or.mp hc
      rw [List.cons_append, List.cons_append, physicalLinesAfter_cons hplain,
        physicalLinesAfter_cons hplain, ih]

theorem physicalLines_append_newline (s t : List Char) :
    physicalLines (s ++ '\n' :: t) = physicalLines (s ++ ['\n']) ++ physicalLines t :=
  physicalLinesAfter_append_newline [] s t

-- A line feed ends a line that has begun, and a carriage return in front of it is no line more.
theorem physicalLinesAfter_newline (hs : '\n' ∉ s) (hne : line ≠ [] ∨ s ≠ []) :
    physicalLinesAfter line (s ++ ['\n']) = physicalLinesAfter line s := by
  induction s generalizing line with
  | nil =>
      have hline : line ≠ [] := hne.resolve_right fun h => h rfl
      simp [physicalLinesAfter, hline]
  | cons c s ih =>
      obtain ⟨hc, hs⟩ := not_or.mp (List.mem_cons.not.mp hs)
      by_cases hreturn : c = '\r'
      · cases s with
        | nil =>
            subst hreturn
            rfl
        | cons d s =>
            have hd (u : List Char) : ∀ r, c = '\r' → d :: u ≠ '\n' :: r := fun r _ h =>
              hs ((List.cons.inj h).1 ▸ List.mem_cons_self)
            have hrest : physicalLinesAfter [] (d :: s ++ ['\n']) =
                physicalLinesAfter [] (d :: s) := ih hs (.inr (List.cons_ne_nil d s))
            simp only [List.cons_append]
            rw [physicalLinesAfter_end (.inr hreturn) (hd _),
              physicalLinesAfter_end (.inr hreturn) (hd _)]
            exact congrArg (line.reverse :: ·) hrest
      · have hplain : c ≠ '\n' ∧ c ≠ '\r' := ⟨Ne.symm hc, hreturn⟩
        rw [List.cons_append, physicalLinesAfter_cons hplain, physicalLinesAfter_cons hplain,
          ih hs (.inl (List.cons_ne_nil c line))]

theorem exists_physicalLinesAfter_end (hc : ¬(c ≠ '\n' ∧ c ≠ '\r')) (s : List Char) :
    ∃ rest, ∀ line, physicalLinesAfter line (c :: s) = line.reverse :: rest := by
  have hc : c = '\n' ∨ c = '\r' := by tauto
  by_cases hboth : ∃ r, c = '\r' ∧ s = '\n' :: r
  · obtain ⟨r, rfl, rfl⟩ := hboth
    exact ⟨physicalLines r, fun _ => rfl⟩
  · have hs : ∀ r, c = '\r' → s ≠ '\n' :: r := fun r hr hd => hboth ⟨r, hr, hd⟩
    exact ⟨physicalLines s, physicalLinesAfter_end hc hs⟩

-- What a line has begun with stands in front of the first line of the rest.
theorem physicalLinesAfter_eq (hline : line ≠ []) (s : List Char) :
    physicalLinesAfter line s =
      (line.reverse ++ (physicalLines s).headD []) :: (physicalLines s).tail := by
  induction s generalizing line with
  | nil => simp [physicalLines, physicalLinesAfter, hline]
  | cons c s ih =>
      by_cases hc : c ≠ '\n' ∧ c ≠ '\r'
      · rw [physicalLines, physicalLinesAfter_cons hc, physicalLinesAfter_cons hc,
          ih (List.cons_ne_nil c line), ih (List.cons_ne_nil c [])]
        simp
      · obtain ⟨rest, hrest⟩ := exists_physicalLinesAfter_end hc s
        rw [physicalLines, hrest, hrest]
        simp

-- ### The code of the user

theorem newline_notMem_of_mem_linesAfter (hline : '\n' ∉ line)
    (h : l ∈ Text.linesAfter line s) : '\n' ∉ l := by
  induction s generalizing line with
  | nil =>
      rw [Text.linesAfter] at h
      split at h
      · cases h
      · rw [List.mem_singleton.mp h, List.mem_reverse]
        exact hline
  | cons c s ih =>
      rw [Text.linesAfter] at h
      split at h
      · rcases List.mem_cons.mp h with rfl | h
        · rw [List.mem_reverse]
          unfold Text.dropReturn
          split
          · exact fun hmem => hline (List.mem_cons_of_mem _ hmem)
          · exact hline
        · exact ih List.not_mem_nil h
      · rename_i hc
        exact ih (by simp [Ne.symm hc, hline]) h

-- Behind a carriage return that no line feed follows, the language begins a new line.
def afterReturns (line : List Char) : List (List Char) := (physicalLines line).tail

-- The physical lines that are made of a line of the body.
def linesOf (line : List Char) : List (List Char) :=
  if Text.isBlankText line then [[]]
  else (indent ++ (physicalLines line).headD []) :: afterReturns line

theorem physicalLines_indentLine (hline : '\n' ∉ line) (t : List Char) :
    physicalLines (indentLine line ++ t) = linesOf line ++ physicalLines t := by
  unfold indentLine linesOf
  split
  · rfl
  · have hindent : physicalLines (indent ++ line ++ ['\n']) =
        physicalLinesAfter indent.reverse (line ++ ['\n']) := rfl
    rw [List.append_assoc, List.singleton_append, physicalLines_append_newline, hindent,
      physicalLinesAfter_newline hline (.inl (by decide)), physicalLinesAfter_eq (by decide),
      List.reverse_reverse, afterReturns]

theorem physicalLines_indentBody (body : String) (t : List Char) :
    physicalLines (indentBody body ++ t) =
      (Text.lines body.toList).flatMap linesOf ++ physicalLines t := by
  have hlines : ∀ l ∈ Text.lines body.toList, '\n' ∉ l := fun l hl =>
    newline_notMem_of_mem_linesAfter List.not_mem_nil hl
  rw [indentBody]
  generalize Text.lines body.toList = lines at hlines
  induction lines with
  | nil => rfl
  | cons line rest ih =>
      obtain ⟨hline, hrest⟩ := List.forall_mem_cons.mp hlines
      rw [List.flatMap_cons, List.append_assoc, physicalLines_indentLine hline, ih hrest,
        List.flatMap_cons, List.append_assoc]

theorem physicalLines_indentBody_eq (body : String) :
    physicalLines (indentBody body) = (Text.lines body.toList).flatMap linesOf := by
  have h := physicalLines_indentBody body []
  rwa [List.append_nil, show physicalLines [] = [] from rfl, List.append_nil] at h

-- ### The guarded block

-- A line of blanks is none to the language, however it begins.
def Indented (l : List Char) : Prop :=
  (∀ c ∈ l, c = ' ' ∨ c = '\t' ∨ c = '\x0c') ∨ indent <+: l

-- The characters of the line are gone through, not all that there are.
instance (l : List Char) : Decidable (Indented l) :=
  @instDecidableOr _ (indent <+: l)
    (List.decidableBAll (fun c => c = ' ' ∨ c = '\t' ∨ c = '\x0c') l) inferInstance

def firstGuarded : List Char := "    log_message('INFO', 'Spider execution started')".toList

-- The physical lines between `try` and `except`.
def Sections.guarded (s : Sections) : List (List Char) :=
  firstGuarded ::
    (physicalLines (indentBody s.body) ++ "    pass".toList :: s.epilogue.map String.toList)

theorem indented_of_mem_linesOf (hl : l ∈ linesOf line) :
    Indented l ∨ Text.isBlankText line = false ∧ l ∈ afterReturns line := by
  unfold linesOf at hl
  split at hl
  · rw [List.mem_singleton.mp hl]
    exact .inl (.inl (List.forall_mem_nil _))
  · rename_i hblank
    rcases List.mem_cons.mp hl with rfl | hl
    · exact .inl (.inr (List.prefix_append ..))
    · exact .inr ⟨Bool.eq_false_iff.mpr hblank, hl⟩

theorem Sections.forall_guarded_iff (s : Sections)
    (hepilogue : ∀ l ∈ s.epilogue, Indented l.toList) :
    (∀ l ∈ s.guarded, Indented l) ↔
      ∀ line ∈ Text.lines s.body.toList, Text.isBlankText line = false →
        ∀ l ∈ afterReturns line, Indented l := by
  unfold guarded
  rw [physicalLines_indentBody_eq]
  constructor
  · intro h line hline hblank l hl
    refine h l (List.mem_cons_of_mem _ (List.mem_append_left _ ?_))
    refine List.mem_flatMap.mpr ⟨line, hline, ?_⟩
    rw [linesOf, if_neg (Bool.eq_false_iff.mp hblank)]
    exact List.mem_cons_of_mem _ hl
  · intro h l hl
    rcases List.mem_cons.mp hl with rfl | hl
    · decide
    rcases List.mem_append.mp hl with hl | hl
    · obtain ⟨line, hline, hl⟩ := List.mem_flatMap.mp hl
      exact (indented_of_mem_linesOf hl).elim id fun hafter => h line hline hafter.1 l hafter.2
    rcases List.mem_cons.mp hl with rfl | hl
    · decide
    · obtain ⟨text, htext, rfl⟩ := List.mem_map.mp hl
      exact hepilogue text htext

-- What stands in front of the guarded block.
def Sections.head (s : Sections) : List Char :=
  unlines imports ++ ['\n'] ++ s.constants.flatMap constantLine ++
    s.helpers.flatMap fun h => '\n' :: '\n' :: unlines h

theorem Sections.physicalLines_render (s : Sections)
    (hepilogue : ∀ l ∈ s.epilogue, EndsNoLine l.toList)
    (hhandler : ∀ l ∈ s.handler, EndsNoLine l.toList) :
    physicalLines s.render = physicalLines (s.head ++ ['\n']) ++
      [] :: "try:".toList :: (s.guarded ++ s.handler.map String.toList) := by
  have hstart : guardStart =
      '\n' :: '\n' :: ("try:".toList ++ '\n' :: (firstGuarded ++ '\n' :: [])) := rfl
  have hpass : indent ++ "pass\n".toList = "    pass".toList ++ '\n' :: [] := rfl
  have hrender : s.render = s.head ++ '\n' :: '\n' :: ("try:".toList ++ '\n' ::
      (firstGuarded ++ '\n' :: (indentBody s.body ++ ("    pass".toList ++ '\n' ::
        (unlines s.epilogue ++ unlines s.handler))))) := by
    rw [render, head, hstart, List.append_assoc _ indent, hpass]
    simp only [List.append_assoc, List.cons_append, List.nil_append]
  have htail : physicalLines (unlines s.epilogue ++ unlines s.handler) =
      s.epilogue.map String.toList ++ s.handler.map String.toList := by
    have hlast := physicalLines_unlines hhandler []
    rw [List.append_nil, show physicalLines [] = [] from rfl, List.append_nil] at hlast
    rw [physicalLines_unlines hepilogue, hlast]
  have hblank (t : List Char) : physicalLines ('\n' :: t) = [] :: physicalLines t := rfl
  rw [hrender, physicalLines_append_newline, hblank,
    physicalLines_line (s := "try:".toList) (by decide),
    physicalLines_line (s := firstGuarded) (by decide), physicalLines_indentBody,
    physicalLines_line (s := "    pass".toList) (by decide), htail, guarded,
    physicalLines_indentBody_eq]
  simp only [List.append_assoc, List.cons_append]

-- ### Scripts

variable (mode : RunMode) (spider : Int) (execution : String) (config : Json) (body : String)

-- The characters of a text that is written out are at hand and need not be decoded.
theorem forall_written_cons {P : List Char → Prop} {cs : List Char} {lines : List String}
    (hcs : P cs) (hlines : ∀ l ∈ lines, P l.toList) :
    ∀ l ∈ String.ofList cs :: lines, P l.toList :=
  List.forall_mem_cons.mpr ⟨by rwa [String.toList_ofList], hlines⟩

theorem epilogue_make : ∀ l ∈ (Sections.make mode spider execution config body).epilogue,
    EndsNoLine l.toList ∧ Indented l.toList := by
  have hnil : ∀ l ∈ ([] : List String), EndsNoLine l.toList ∧ Indented l.toList := nofun
  cases mode with
  | files => exact forall_written_cons (P := fun l => EndsNoLine l ∧ Indented l) (by decide) hnil
  | direct =>
      change ∀ l ∈ directEpilogue, EndsNoLine l.toList ∧ Indented l.toList
      dsimp only [directEpilogue]
      repeat refine forall_written_cons (P := fun l => EndsNoLine l ∧ Indented l) (by decide) ?_
      exact hnil

theorem handler_make : ∃ rest, (∀ body,
    (Sections.make mode spider execution config body).handler =
      "except Exception as e:" :: rest) ∧ ∀ l ∈ rest, EndsNoLine l.toList := by
  have hnil : ∀ l ∈ ([] : List String), EndsNoLine l.toList := nofun
  cases mode with
  | files =>
      refine ⟨filesHandler.tail, fun _ => rfl, ?_⟩
      dsimp only [filesHandler, List.tail_cons]
      repeat refine forall_written_cons (P := EndsNoLine) (by decide) ?_
      exact hnil
  | direct =>
      refine ⟨directHandler.tail, fun _ => rfl, ?_⟩
      dsimp only [directHandler, List.tail_cons]
      repeat refine forall_written_cons (P := EndsNoLine) (by decide) ?_
      exact hnil

-- The lines around the block are the same for every body. In the block every line is indented
-- exactly if that is so of what stands behind carriage returns in the lines of the body.
theorem guarded_indented_iff : ∃ front back, ∀ body,
    physicalLines (Sections.make mode spider execution config body).render =
      front ++ "try:".toList :: ((Sections.make mode spider execution config body).guarded ++
        "except Exception as e:".toList :: back) ∧
    ((∀ l ∈ (Sections.make mode spider execution config body).guarded, Indented l) ↔
      ∀ line ∈ Text.lines body.toList, Text.isBlankText line = false →
        ∀ l ∈ afterReturns line, Indented l) := by
  obtain ⟨rest, hhandler, hrest⟩ := handler_make mode spider execution config
  refine ⟨physicalLines ((Sections.make mode spider execution config "").head ++ ['\n']) ++ [[]],
    rest.map String.toList, fun body => ⟨?_, ?_⟩⟩
  · have hepilogue := epilogue_make mode spider execution config body
    have hlines : ∀ l ∈ (Sections.make mode spider execution config body).handler,
        EndsNoLine l.toList := by
      rw [hhandler]
      exact List.forall_mem_cons.mpr ⟨by decide, hrest⟩
    rw [Sections.physicalLines_render _ (fun l hl => (hepilogue l hl).1) hlines, hhandler,
      List.append_assoc]
    rfl
  · exact Sections.forall_guarded_iff _ fun l hl =>
      (epilogue_make mode spider execution config body l hl).2

-- A line feed behind a carriage return ends the same line as that.
example : ∀ l ∈ physicalLines (indentBody "a = 1\r\nif a:\r\n    b()"), Indented l := by decide

-- A carriage return alone takes the next statement out of the block.
theorem return_ends_block : ∃ l ∈ (Sections.make .files 1 "x" (.obj []) "a = 1\rb = 2").guarded,
    l = "b = 2".toList ∧ ¬Indented l := by
  refine ⟨"b = 2".toList, List.mem_cons_of_mem _ (List.mem_append_left _ ?_), rfl, by decide⟩
  decide

end Spiderworks.Script
