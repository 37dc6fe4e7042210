import Spiderworks.Disk.Path

namespace Spiderworks.Path

-- What can be a part of a path.
structure IsPart (part : String) : Prop where
  nonempty : part ≠ ""
  dot : part ≠ "."
  slash : '/' ∉ part.toList

instance (part : String) : Decidable (IsPart part) :=
  decidable_of_iff (part ≠ "" ∧ part ≠ "." ∧ '/' ∉ part.toList)
    ⟨fun ⟨hempty, hdot, hslash⟩ => ⟨hempty, hdot, hslash⟩,
      fun h => ⟨h.nonempty, h.dot, h.slash⟩⟩

-- A part that leads downwards.
structure IsDownward (part : String) : Prop extends IsPart part where
  up : part ≠ ".."

instance (part : String) : Decidable (IsDownward part) :=
  decidable_of_iff (IsPart part ∧ part ≠ "..")
    ⟨fun ⟨hpart, hup⟩ => ⟨hpart, hup⟩, fun h => ⟨h.toIsPart, h.up⟩⟩

-- A path that goes on from a directory, and only downwards from there.
structure Below (base path : String) : Prop where
  absolute : isAbsolute path = isAbsolute base
  descends : ∃ way ≠ [], (∀ part ∈ way, IsDownward part) ∧ parts path = parts base ++ way

variable {part : List Char} {base path name : String} {ps : List String}

theorem splitAux_append_slash (part xs ys : List Char) :
    splitAux part (xs ++ '/' :: ys) = splitAux part xs ++ splitAux [] ys := by
  induction xs generalizing part with
  | nil => simp [splitAux]
  | cons c xs ih =>
      by_cases hc : c = '/'
      · simp [splitAux, hc, ih]
      · simp [splitAux, hc, ih]

theorem splitAux_of_notMem {xs : List Char} (h : '/' ∉ xs) :
    splitAux part xs = [part.reverse ++ xs] := by
  induction xs generalizing part with
  | nil => simp [splitAux]
  | cons c xs ih =>
      obtain ⟨hc, hxs⟩ := not_or.mp (mt List.mem_cons.mpr h)
      rw [splitAux, if_neg (Ne.symm hc), ih hxs, List.reverse_cons, List.append_assoc,
        List.singleton_append]

-- Nothing but what stands between slashes gets into a part.
theorem mem_splitAux {xs q : List Char} {c : Char} (hq : q ∈ splitAux part xs) (hc : c ∈ q) :
    c ∈ part ∨ c ∈ xs ∧ c ≠ '/' := by
  induction xs generalizing part with
  | nil =>
      rw [List.mem_singleton.mp hq] at hc
      exact .inl (List.mem_reverse.mp hc)
  | cons x xs ih =>
      rw [splitAux] at hq
      split at hq
      · rcases List.mem_cons.mp hq with rfl | hq
        · exact .inl (List.mem_reverse.mp hc)
        · rcases ih hq with hpart | ⟨hxs, hslash⟩
          · cases hpart
          · exact .inr ⟨List.mem_cons_of_mem x hxs, hslash⟩
      · rename_i hx
        rcases ih hq with hpart | ⟨hxs, hslash⟩
        · rcases List.mem_cons.mp hpart with rfl | hpart
          · exact .inr ⟨List.mem_cons_self, hx⟩
          · exact .inl hpart
        · exact .inr ⟨List.mem_cons_of_mem x hxs, hslash⟩

theorem mem_of_mem_parts {p : String} {c : Char} (hp : p ∈ parts path) (hc : c ∈ p.toList) :
    c ∈ path.toList ∧ c ≠ '/' := by
  obtain ⟨q, hq, rfl⟩ := List.mem_map.mp hp
  rw [String.toList_ofList] at hc
  rcases mem_splitAux (List.mem_filter.mp hq).1 hc with hnil | h
  · cases hnil
  · exact h

theorem isPart_of_mem_parts {p : String} (hp : p ∈ parts path) : IsPart p := by
  refine ⟨?_, ?_, fun hslash => (mem_of_mem_parts hp hslash).2 rfl⟩
  all_goals
    obtain ⟨q, hq, rfl⟩ := List.mem_map.mp hp
    have hcounts := (List.mem_filter.mp hq).2
    rintro heq
    have hq := congrArg String.toList heq
    rw [String.toList_ofList] at hq
    simp [hq] at hcounts

theorem parts_append_slash (a b : String) : parts (a ++ "/" ++ b) = parts a ++ parts b := by
  have hsplit : splitAux [] (a ++ "/" ++ b).toList =
      splitAux [] a.toList ++ splitAux [] b.toList := by
    rw [String.toList_append, String.toList_append, List.append_assoc]
    exact splitAux_append_slash [] a.toList b.toList
  rw [parts, hsplit, List.filter_append, List.map_append]
  rfl

theorem IsPart.parts_eq {p : String} (h : IsPart p) : parts p = [p] := by
  have hempty : p.toList ≠ [] := fun heq => h.nonempty (String.toList_injective heq)
  have hdot : p.toList ≠ ['.'] := fun heq => h.dot (String.toList_injective heq)
  have hcounts : [p.toList].filter (fun q => q != [] && q != ['.']) = [p.toList] := by
    simp [hempty, hdot]
  rw [parts, splitAux_of_notMem h.slash, List.reverse_nil, List.nil_append, hcounts, List.map_cons,
    List.map_nil, String.ofList_toList]

theorem parts_intercalate (h : ∀ p ∈ ps, IsPart p) : parts (String.intercalate "/" ps) = ps := by
  induction ps with
  | nil => decide
  | cons p ps ih =>
      have hp := (h p List.mem_cons_self).parts_eq
      cases ps with
      | nil => simpa using hp
      | cons q qs =>
          rw [String.intercalate_cons_cons, parts_append_slash, hp,
            ih fun r hr => h r (List.mem_cons_of_mem p hr), List.singleton_append]

theorem isAbsolute_intercalate (h : ∀ p ∈ ps, IsPart p) :
    isAbsolute (String.intercalate "/" ps) = false := by
  cases ps with
  | nil => decide
  | cons p ps =>
      have hp := h p List.mem_cons_self
      obtain ⟨c, cs, hcs⟩ := List.exists_cons_of_ne_nil
        fun heq : p.toList = [] => hp.nonempty (String.toList_injective heq)
      have hc : c ≠ '/' := by
        rintro rfl
        exact hp.slash (hcs ▸ List.mem_cons_self)
      cases ps <;> simp [isAbsolute, String.intercalate_cons_cons, hcs, hc]

theorem parts_join (hpath : isAbsolute path = false) :
    parts (join base path) = parts base ++ parts path := by
  unfold join
  split
  · rename_i hbase
    have hempty : base = "" := by simpa [hpath] using hbase
    rw [hempty]
    rfl
  · split
    · rename_i hlast
      -- A base with a slash at its end is a shorter one with a slash after it.
      obtain ⟨short, hshort⟩ := List.getLast?_eq_some_iff.mp (beq_iff_eq.mp hlast)
      have hbase : base = String.ofList short ++ "/" ++ "" := by
        apply String.toList_injective
        simpa using hshort
      have hparts : parts base = parts (String.ofList short) := by
        rw [hbase, parts_append_slash]
        exact List.append_nil _
      have hjoined : base ++ path = String.ofList short ++ "/" ++ path := by
        apply String.toList_injective
        rw [hbase]
        simp
      rw [hjoined, parts_append_slash, hparts]
    · rw [parts_append_slash]

theorem isAbsolute_join_eq (base path : String) :
    isAbsolute (join base path) = (isAbsolute base || isAbsolute path) := by
  have hempty : isAbsolute "" = false := by decide
  cases hpath : isAbsolute path with
  | true => simp [join, hpath]
  | false =>
      by_cases hbase : base = ""
      · simp [join, hbase, hempty, hpath]
      · obtain ⟨c, cs, hcs⟩ := List.exists_cons_of_ne_nil
          fun heq : base.toList = [] => hbase (String.toList_injective heq)
        have hhead : (join base path).toList.head? = some c := by
          unfold join
          split
          · simp_all
          · split <;> simp [hcs]
        simp [isAbsolute, hhead, hcs]

theorem isAbsolute_join (hbase : isAbsolute base = true) : isAbsolute (join base path) = true := by
  rw [isAbsolute_join_eq, hbase, Bool.true_or]

-- ### Going on by one part

theorem IsPart.isAbsolute_eq (h : IsPart name) : isAbsolute name = false := by
  rw [isAbsolute, beq_eq_false_iff_ne]
  exact fun hhead => h.slash (List.mem_of_head? hhead)

theorem IsPart.parts_join (h : IsPart name) : parts (join base name) = parts base ++ [name] := by
  rw [Path.parts_join h.isAbsolute_eq, h.parts_eq]

theorem IsDownward.below_join (h : IsDownward name) : Below base (join base name) where
  absolute := by rw [isAbsolute_join_eq, h.isAbsolute_eq, Bool.or_false]
  descends := ⟨[name], List.cons_ne_nil _ _, List.forall_mem_singleton.mpr h, h.parts_join⟩

theorem Below.trans {dir : String} (h : Below base dir) (h' : Below dir path) :
    Below base path := by
  obtain ⟨way, hne, hdown, hparts⟩ := h.descends
  obtain ⟨more, -, hdown', hparts'⟩ := h'.descends
  refine ⟨h'.absolute.trans h.absolute, way ++ more, List.append_ne_nil_of_left_ne_nil hne more,
    List.forall_mem_append.mpr ⟨hdown, hdown'⟩, ?_⟩
  rw [hparts', hparts, List.append_assoc]

end Spiderworks.Path
