import Spiderworks.Proofs.Disk.Walk

namespace Spiderworks.Disk

-- What stands at a place does not make a walk go on.
def IsEnd (d : Disk) (follow : Bool) (place : List String) : Prop :=
  match d.node? place with
  | none | some (.file _) => True
  | some .directory => False
  | some (.link _) => follow = false

-- The parts of a path lead from here to a place, along no more than so many links.
inductive Leads (d : Disk) (follow : Bool) :
    Nat → List String → List String → List String → Prop
  | here (links : Nat) (place : List String) : Leads d follow links place [] place
  | up {links : Nat} {here rest place : List String} :
      Leads d follow links here.dropLast rest place → Leads d follow links here (".." :: rest) place
  | last {p : String} {here : List String} (links : Nat) : p ≠ ".." → p.utf8ByteSize ≤ maxName →
      d.IsEnd follow (here ++ [p]) → Leads d follow links here [p] (here ++ [p])
  | down {p : String} {links : Nat} {here rest place : List String} : p ≠ ".." →
      p.utf8ByteSize ≤ maxName → d.node? (here ++ [p]) = some .directory →
      Leads d follow links (here ++ [p]) rest place → Leads d follow links here (p :: rest) place
  | link {p target : String} {links : Nat} {here rest place : List String} : p ≠ ".." →
      p.utf8ByteSize ≤ maxName → d.node? (here ++ [p]) = some (.link target) →
      (rest = [] → follow = true) →
      Leads d follow links (if Path.isAbsolute target then [] else here)
        (Path.parts target ++ rest) place →
      Leads d follow (links + 1) here (p :: rest) place

variable {d d' : Disk} {follow : Bool} {links : Nat} {here rest more place next dir : List String}
  {name : String}

-- What a walk ends in, by what the links lead it to.
theorem leads_of_stroll {links : Nat}
    {jump : List String → List String → Except IoError (List String)}
    (hjump : ∀ {p target : String} {here rest : List String}, p ≠ ".." →
      p.utf8ByteSize ≤ maxName → d.node? (here ++ [p]) = some (.link target) →
      (rest = [] → follow = true) →
      jump (if Path.isAbsolute target then [] else here) (Path.parts target ++ rest) = .ok place →
      d.Leads follow links here (p :: rest) place)
    (h : d.stroll follow jump here rest = .ok place) : d.Leads follow links here rest place := by
  fun_induction stroll d follow jump here rest with
  | case1 here =>
      rw [← Except.ok.inj h]
      exact .here links here
  | case2 here rest ih => exact .up (ih h)
  | case3 => cases h
  | case4 here p rest hup hshort _ hnode hempty =>
      rw [← Except.ok.inj h, List.isEmpty_iff.mp hempty]
      refine .last links hup (Nat.not_lt.mp hshort) ?_
      rw [IsEnd, hnode]
      trivial
  | case5 => cases h
  | case6 here p rest hup hshort _ hnode ih => exact .down hup (Nat.not_lt.mp hshort) hnode (ih h)
  | case7 here p rest hup hshort _ bytes hnode hempty =>
      rw [← Except.ok.inj h, List.isEmpty_iff.mp hempty]
      refine .last links hup (Nat.not_lt.mp hshort) ?_
      rw [IsEnd, hnode]
      trivial
  | case8 => cases h
  | case9 here p rest hup hshort _ target hnode hend =>
      obtain ⟨hempty, hfollow⟩ := Bool.and_eq_true_iff.mp hend
      rw [← Except.ok.inj h, List.isEmpty_iff.mp hempty]
      refine .last links hup (Nat.not_lt.mp hshort) ?_
      rw [IsEnd, hnode]
      simpa using hfollow
  | case10 here p rest hup hshort _ target hnode hend =>
      refine hjump hup (Nat.not_lt.mp hshort) hnode (fun hempty => ?_) h
      simpa [hempty] using hend

theorem leads_of_locate (h : d.locate follow links here rest = .ok place) :
    d.Leads follow links here rest place := by
  induction links generalizing here rest place with
  | zero => exact leads_of_stroll (fun _ _ _ _ hjump => by cases hjump) h
  | succ links ih =>
      exact leads_of_stroll
        (fun hup hshort hnode hfollow hjump => .link hup hshort hnode hfollow (ih hjump)) h

theorem exists_stroll (d : Disk) (follow : Bool) (links : Nat) :
    ∃ jump, d.locate follow links = d.stroll follow jump := by
  cases links <;> exact ⟨_, rfl⟩

theorem Leads.locate (h : d.Leads follow links here rest place) :
    d.locate follow links here rest = .ok place := by
  induction h with
  | here links place =>
      obtain ⟨jump, hjump⟩ := d.exists_stroll follow links
      rw [hjump, stroll]
  | @up links here rest place _ ih =>
      obtain ⟨jump, hjump⟩ := d.exists_stroll follow links
      rw [hjump] at ih ⊢
      rw [stroll, if_pos rfl, ih]
  | @last p here links hup hshort hend =>
      obtain ⟨jump, hjump⟩ := d.exists_stroll follow links
      rw [hjump, stroll, if_neg hup, if_neg (Nat.not_lt.mpr hshort)]
      dsimp only
      unfold IsEnd at hend
      split <;> simp_all
  | @down p links here rest place hup hshort hnode _ ih =>
      obtain ⟨jump, hjump⟩ := d.exists_stroll follow links
      rw [hjump] at ih ⊢
      rw [stroll, if_neg hup, if_neg (Nat.not_lt.mpr hshort)]
      dsimp only
      rw [hnode]
      exact ih
  | link hup hshort hnode hfollow _ ih =>
      rw [Disk.locate, stroll, if_neg hup, if_neg (Nat.not_lt.mpr hshort)]
      dsimp only
      rw [hnode]
      dsimp only
      rw [if_neg (by simpa using hfollow)]
      exact ih

-- A longer path goes on from the directory to which its first part leads.
theorem Leads.append (h : d.Leads true links here rest place)
    (hplace : d.node? place = some .directory) (hmore : more ≠ [])
    (hnext : ∀ links, d.Leads follow links place more next) :
    d.Leads follow links here (rest ++ more) next := by
  induction h with
  | here links => exact hnext links
  | up _ ih => exact .up (ih hplace hnext)
  | last links _ _ hend =>
      rw [IsEnd, hplace] at hend
      exact hend.elim
  | down hup hshort hnode _ ih => exact .down hup hshort hnode (ih hplace hnext)
  | link hup hshort hnode _ _ ih =>
      refine .link hup hshort hnode (by simp [hmore]) ?_
      have h := ih hplace hnext
      rwa [List.append_assoc] at h

theorem Leads.of_up (h : d.Leads follow links here (".." :: rest) place) :
    d.Leads follow links here.dropLast rest place := by
  cases h with
  | up h => exact h
  | last _ hup => exact absurd rfl hup
  | down hup => exact absurd rfl hup
  | link hup => exact absurd rfl hup

theorem Leads.of_directory (h : d.Leads follow links here (name :: rest) place) (hup : name ≠ "..")
    (hnode : d.node? (here ++ [name]) = some .directory) :
    d.Leads follow links (here ++ [name]) rest place := by
  cases h with
  | up => exact absurd rfl hup
  | last _ _ _ hend =>
      rw [IsEnd, hnode] at hend
      exact hend.elim
  | down _ _ _ h => exact h
  | link _ _ hlink =>
      rw [hnode] at hlink
      cases hlink

theorem Leads.of_link {target : String} (h : d.Leads follow (links + 1) here (name :: rest) place)
    (hup : name ≠ "..") (hnode : d.node? (here ++ [name]) = some (.link target))
    (hrest : rest ≠ []) :
    d.Leads follow links (if Path.isAbsolute target then [] else here)
      (Path.parts target ++ rest) place := by
  cases h with
  | up => exact absurd rfl hup
  | last => exact absurd rfl hrest
  | down _ _ hdirectory =>
      rw [hnode] at hdirectory
      cases hdirectory
  | link _ _ hlink _ h =>
      rw [hnode] at hlink
      cases hlink
      exact h

-- And a path that goes on from a directory leads where what is left of it leads from there.
theorem Leads.of_append (h : d.Leads true links here rest place)
    (hplace : d.node? place = some .directory)
    (hmore : more ≠ []) (hnext : d.Leads follow links here (rest ++ more) next) :
    ∃ links, d.Leads follow links place more next := by
  induction h with
  | here links => exact ⟨links, hnext⟩
  | up _ ih => exact ih hplace hnext.of_up
  | last links _ _ hend =>
      rw [IsEnd, hplace] at hend
      exact hend.elim
  | down hup hshort hnode _ ih => exact ih hplace (hnext.of_directory hup hnode)
  | link hup hshort hnode _ _ ih =>
      refine ih hplace ?_
      rw [List.append_assoc]
      exact hnext.of_link hup hnode (by simp [hmore])

-- A name that is no link leads to its entry.
theorem Leads.entry (h : d.Leads follow links dir [name] next) (hup : name ≠ "..")
    (hlink : ∀ t, d.node? (dir ++ [name]) ≠ some (.link t)) :
    next = dir ++ [name] ∧ name.utf8ByteSize ≤ maxName := by
  cases h with
  | up => exact absurd rfl hup
  | last _ _ hshort => exact ⟨rfl, hshort⟩
  | down _ hshort _ hnext =>
      cases hnext
      exact ⟨rfl, hshort⟩
  | link _ _ hnode => exact absurd hnode (hlink _)

-- A walk does not see in which order the entries are listed.
theorem Leads.relisted (h : d.Leads follow links here rest place) (hd : d.Relisted d') :
    d'.Leads follow links here rest place := by
  induction h with
  | here links place => exact .here links place
  | up _ ih => exact .up ih
  | last links hup hshort hend =>
      refine .last links hup hshort ?_
      rwa [IsEnd, hd.node?_eq]
  | down hup hshort hnode _ ih => exact .down hup hshort ((hd.node?_eq _).trans hnode) ih
  | link hup hshort hnode hfollow _ ih =>
      exact .link hup hshort ((hd.node?_eq _).trans hnode) hfollow ih

theorem leads_of_walk {parts : List String} (h : d.walk follow parts = .ok place) :
    (∀ p ∈ parts, '\x00' ∉ p.toList) ∧ d.Leads follow maxLinks [] parts place := by
  unfold walk at h
  split at h
  · cases h
  · rename_i hnul
    exact ⟨by simpa using hnul, leads_of_locate h⟩

theorem Leads.walk {parts : List String} (hnul : ∀ p ∈ parts, '\x00' ∉ p.toList)
    (h : d.Leads follow maxLinks [] parts place) : d.walk follow parts = .ok place := by
  have hclean : (parts.any (·.toList.contains '\x00')) = false := by simpa using hnul
  rw [Disk.walk, hclean]
  exact h.locate

theorem Relisted.place_eq_ok (hd : d.Relisted d') {path : String} (h : d.place path = .ok place) :
    d'.place path = .ok place := by
  obtain ⟨hnul, hleads⟩ := leads_of_walk h
  exact (hleads.relisted hd).walk hnul

theorem isDirectory_iff {path : String} : d.isDirectory path = true ↔
    ∃ place, d.place path = .ok place ∧ d.node? place = some .directory := by
  unfold isDirectory stat
  cases hplace : d.place path with
  | error e => simp [bind, Except.bind]
  | ok place =>
      cases hnode : d.node? place with
      | none => simp [bind, Except.bind, hnode, throw, throwThe, MonadExceptOf.throw]
      | some n => cases n <;> simp [bind, Except.bind, hnode, pure, Except.pure]

end Spiderworks.Disk
