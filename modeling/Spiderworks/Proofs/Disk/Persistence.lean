import Spiderworks.Proofs.Disk.Paths
import Spiderworks.Proofs.Disk.Places
import Spiderworks.Proofs.Fallible

namespace Spiderworks.Disk

-- The contents of the regular file at a place.
def file? (d : Disk) (place : List String) : Option (List UInt8) :=
  match d.node? place with
  | some (.file bytes) => some bytes
  | _ => none

def erase (d : Disk) (place : List String) : Disk := ⟨d.entries.filter (·.1 != place)⟩

-- Paths lead through the same directories and links as before, and maybe through more directories.
structure Keeps (d d' : Disk) : Prop where
  directory : ∀ place, d.node? place = some .directory → d'.node? place = some .directory
  link : ∀ place target, d'.node? place = some (.link target) ↔ d.node? place = some (.link target)

variable {d d' u : Disk} {follow : Bool} {links : Nat}
  {here rest more place next p dir parts back way : List String} {path base name : String}
  {bytes : List UInt8} {n : Node}

theorem file?_eq_some_iff : d.file? place = some bytes ↔ d.node? place = some (.file bytes) := by
  unfold file?
  split <;> simp_all

theorem file?_congr (h : d'.node? place = d.node? place) : d'.file? place = d.file? place := by
  rw [file?, h, file?]

-- ### Entries

theorem ne_nil_of_node? (h : d.node? place ≠ some .directory) : place ≠ [] := by
  rintro rfl
  exact h rfl

theorem node?_set_self (hne : place ≠ []) (d : Disk) (n : Node) :
    (d.set place n).node? place = some n := by
  have hempty : place.isEmpty = false := by simpa using hne
  have hnone : (d.entries.filter (·.1 != place)).find? (·.1 == place) = none := by
    simp [List.find?_eq_none]
  rw [node?, hempty, Disk.set, List.find?_append, hnone]
  simp

theorem node?_erase_self (hne : place ≠ []) (d : Disk) : (d.erase place).node? place = none := by
  have hempty : place.isEmpty = false := by simpa using hne
  rw [node?, hempty, erase]
  simp [List.find?_eq_none]

theorem node?_erase_other (h : p ≠ place) (d : Disk) : (d.erase place).node? p = d.node? p := by
  have hfind : (d.entries.filter (·.1 != place)).find? (·.1 == p) =
      d.entries.find? (·.1 == p) := by
    rw [List.find?_filter]
    refine congrArg (d.entries.find? ·) (funext fun e => ?_)
    by_cases he : e.1 = p
    · simp [he, h]
    · simp [he]
  rw [node?, node?, erase, hfind]

theorem node?_set_other (h : p ≠ place) (d : Disk) (n : Node) :
    (d.set place n).node? p = d.node? p := by
  rw [← node?_erase_other h d, node?, node?, Disk.set, List.find?_append]
  simp [erase, Ne.symm h]

theorem file?_set_self (hne : place ≠ []) : (d.set place (.file bytes)).file? place = some bytes :=
  file?_eq_some_iff.mpr (node?_set_self hne d _)

theorem file?_set_directory (h : d.node? place = none) :
    (d.set place .directory).file? = d.file? := by
  funext p
  by_cases hp : p = place
  · have hdirectory : d.node? place ≠ some .directory := by rw [h]; nofun
    have hne := ne_nil_of_node? hdirectory
    rw [hp, file?, node?_set_self hne, file?, h]
  · exact file?_congr (node?_set_other hp d _)

-- ### Directories and links

namespace Keeps

theorem refl (d : Disk) : d.Keeps d := ⟨fun _ => id, fun _ _ => Iff.rfl⟩

theorem trans (h : d.Keeps u) (h' : u.Keeps d') : d.Keeps d' :=
  ⟨fun p hp => h'.directory p (h.directory p hp), fun p t => (h'.link p t).trans (h.link p t)⟩

-- Something else than a directory or a link is changed into something that is no link.
theorem of_other (h : ∀ p, p ≠ place → d'.node? p = d.node? p)
    (hdirectory : d.node? place ≠ some .directory) (hlink : ∀ t, d.node? place ≠ some (.link t))
    (hnew : ∀ t, d'.node? place ≠ some (.link t)) : d.Keeps d' := by
  constructor
  · intro p hp
    have hne : p ≠ place := by
      rintro rfl
      exact hdirectory hp
    rwa [h p hne]
  · intro p t
    by_cases hp : p = place
    · rw [hp]
      exact iff_of_false (hnew t) (hlink t)
    · rw [h p hp]

theorem set (hdirectory : d.node? place ≠ some .directory)
    (hlink : ∀ t, d.node? place ≠ some (.link t)) (hn : ∀ t, n ≠ .link t) :
    d.Keeps (d.set place n) := by
  refine of_other (fun p hp => node?_set_other hp d n) hdirectory hlink fun t => ?_
  rw [node?_set_self (ne_nil_of_node? hdirectory)]
  exact fun h => hn t (Option.some.inj h)

theorem erase (h : d.file? place = some bytes) : d.Keeps (d.erase place) := by
  have hnode := file?_eq_some_iff.mp h
  have hdirectory : d.node? place ≠ some .directory := by rw [hnode]; nofun
  refine of_other (fun p hp => node?_erase_other hp d) hdirectory (by rw [hnode]; nofun) ?_
  rw [node?_erase_self (ne_nil_of_node? hdirectory)]
  exact nofun

end Keeps

-- ### Where paths lead

-- A path goes where it went, if what stands at its end still ends it.
theorem Leads.kept (h : d.Leads follow links here rest place) (hd : d.Keeps d')
    (hend : d.IsEnd follow place → d'.IsEnd follow place) :
    d'.Leads follow links here rest place := by
  induction h with
  | here links place => exact .here links place
  | up _ ih => exact .up (ih hend)
  | last links hup hshort hlast => exact .last links hup hshort (hend hlast)
  | down hup hshort hnode _ ih => exact .down hup hshort (hd.directory _ hnode) (ih hend)
  | link hup hshort hnode hfollow _ ih =>
      exact .link hup hshort ((hd.link _ _).mpr hnode) hfollow (ih hend)

-- Nobody comes to a link that would be followed. On the way there are directories only.
theorem Leads.ne_link (h : d.Leads true links here rest place)
    (hhere : ∀ q, q <+: here → d.node? q = some .directory) (target : String) :
    d.node? place ≠ some (.link target) := by
  induction h with
  | here =>
      rw [hhere _ (List.prefix_refl _)]
      exact nofun
  | up _ ih => exact ih fun q hq => hhere q (hq.trans (List.dropLast_prefix _))
  | last _ _ _ hend =>
      intro hnode
      rw [IsEnd, hnode] at hend
      cases hend
  | down _ _ hnode _ ih =>
      refine ih fun q hq => ?_
      rcases List.prefix_concat_iff.mp hq with rfl | hq
      · exact hnode
      · exact hhere q hq
  | link _ _ _ _ _ ih =>
      refine ih ?_
      split
      · intro q hq
        rw [List.prefix_nil.mp hq]
        rfl
      · exact hhere

-- ### Disks without links

def Linkless (d : Disk) : Prop := ∀ place target, d.node? place ≠ some (.link target)

theorem Linkless.kept (h : d.Linkless) (hd : d.Keeps d') : d'.Linkless :=
  fun p t ht => h p t ((hd.link p t).mp ht)

theorem Linkless.erase (h : d.Linkless) (place : List String) : (d.erase place).Linkless := by
  intro p t
  by_cases hp : p = place
  · by_cases hroot : p = []
    · rw [hroot]
      exact nofun
    · rw [← hp, node?_erase_self hroot]
      exact nofun
  · rw [node?_erase_other hp]
    exact h p t

theorem Linkless.removeFile (h : d.Linkless) (hremove : d.removeFile path = .ok d') :
    d'.Linkless := by
  obtain ⟨place, -, hremove⟩ := bind_eq_ok_iff.mp hremove
  split at hremove
  · cases hremove
  · cases hremove
  · cases hremove
    exact h.erase place

-- Without links and steps upwards a path leads to what it says.
theorem Leads.of_linkless (h : d.Leads follow links here rest place) (hd : d.Linkless)
    (hup : ".." ∉ rest) : place = here ++ rest := by
  induction h with
  | here => exact (List.append_nil _).symm
  | up => exact absurd List.mem_cons_self hup
  | last => rfl
  | down _ _ _ _ ih =>
      rw [ih fun hmem => hup (List.mem_cons_of_mem _ hmem), List.append_assoc,
        List.singleton_append]
  | link _ _ hnode => exact absurd hnode (hd _ _)

theorem Linkless.place_eq (hd : d.Linkless) (hup : ".." ∉ Path.parts path)
    (h : d.place path = .ok place) : place = Path.parts path :=
  (leads_of_walk h).2.of_linkless hd hup

-- ### Making and writing

theorem place_ne_link (h : d.place path = .ok place) (target : String) :
    d.node? place ≠ some (.link target) := by
  refine (leads_of_walk h).2.ne_link (fun q hq => ?_) target
  rw [List.prefix_nil.mp hq]
  rfl

theorem write_eq_ok (h : d.write path bytes = .ok d') : ∃ place, d.place path = .ok place ∧
    d.node? place ≠ some .directory ∧ d' = d.set place (.file bytes) := by
  obtain ⟨place, hplace, h⟩ := bind_eq_ok_iff.mp h
  split at h
  · cases h
  · rename_i hnode
    exact ⟨place, hplace, hnode, (Except.ok.inj h).symm⟩

theorem makeDirectory_eq_ok (h : d.makeDirectory parts = .ok d') : ∃ place,
    d.walk false parts = .ok place ∧ d.node? place = none ∧ d' = d.set place .directory := by
  obtain ⟨place, hplace, h⟩ := bind_eq_ok_iff.mp h
  split at h
  · cases h
  · rename_i hnode
    exact ⟨place, hplace, hnode, (Except.ok.inj h).symm⟩

theorem makeOrFind_eq_ok (h : d.makeOrFind parts = .ok d') :
    d.makeDirectory parts = .ok d' ∨ d' = d := by
  unfold Disk.makeOrFind at h
  split at h
  · rename_i hmade
    cases h
    exact .inl hmade
  · split at h
    · exact .inr (Except.ok.inj h).symm
    · cases h

-- Whatever making one directory keeps, making all of them keeps.
theorem makeAll_induction {P : Disk → Prop} (h : d.makeAll back = .ok d') (hd : P d)
    (hmake : ∀ u u' parts, (∀ p ∈ parts, p ∈ back) → P u → u.makeDirectory parts = .ok u' →
      P u') : P d' := by
  have one {u u' : Disk} {parts : List String} (hparts : ∀ p ∈ parts, p ∈ back) (hu : P u)
      (h : u.makeOrFind parts = .ok u') : P u' := by
    rcases makeOrFind_eq_ok h with hmade | rfl
    · exact hmake u u' parts hparts hu hmade
    · exact hu
  induction back generalizing d' with
  | nil =>
      cases h
      exact hd
  | cons p above ih =>
      have hparts : ∀ q ∈ (p :: above).reverse, q ∈ p :: above := fun q hq => List.mem_reverse.mp hq
      have habove {parts : List String} (hparts : ∀ q ∈ parts, q ∈ above) :
          ∀ q ∈ parts, q ∈ p :: above := fun q hq => List.mem_cons_of_mem p (hparts q hq)
      rw [Disk.makeAll] at h
      split at h
      · obtain ⟨u, hu, h⟩ := bind_eq_ok_iff.mp h
        exact one hparts (ih hu (fun u u' _ hparts => hmake u u' _ (habove hparts))
          fun hparts => one (habove hparts)) h
      · exact one hparts hd h

theorem Keeps.write (h : d.write path bytes = .ok d') : d.Keeps d' := by
  obtain ⟨place, hplace, hdirectory, rfl⟩ := write_eq_ok h
  exact .set hdirectory (place_ne_link hplace) nofun

-- A file that was written stands where its path leads, and no other has changed.
theorem file?_write (h : d.write path bytes = .ok d') : ∃ place, d'.place path = .ok place ∧
    ∀ p, p ≠ place → d'.file? p = d.file? p := by
  have hd := Keeps.write h
  obtain ⟨place, hplace, hdirectory, rfl⟩ := write_eq_ok h
  refine ⟨place, ?_, fun p hp => file?_congr (node?_set_other hp d _)⟩
  obtain ⟨hnul, hleads⟩ := leads_of_walk hplace
  refine (hleads.kept hd fun _ => ?_).walk hnul
  rw [IsEnd, node?_set_self (ne_nil_of_node? hdirectory)]
  trivial

-- Directories come in and nothing else changes.
structure Furnishes (d d' : Disk) : Prop extends Keeps d d' where
  files : d'.file? = d.file?

namespace Furnishes

theorem refl (d : Disk) : d.Furnishes d := ⟨.refl d, rfl⟩

theorem trans (h : d.Furnishes u) (h' : u.Furnishes d') : d.Furnishes d' :=
  ⟨h.toKeeps.trans h'.toKeeps, h'.files.trans h.files⟩

theorem makeDirectory (h : d.makeDirectory parts = .ok d') : d.Furnishes d' := by
  obtain ⟨place, -, hnode, rfl⟩ := makeDirectory_eq_ok h
  refine ⟨.set ?_ ?_ nofun, file?_set_directory hnode⟩ <;> simp [hnode]

theorem makeAll (h : d.makeAll back = .ok d') : d.Furnishes d' :=
  makeAll_induction h (refl d) fun _ _ _ _ hu hmade => hu.trans (makeDirectory hmade)

end Furnishes

theorem writeWithParents_eq_ok (h : d.writeWithParents path bytes = .ok d') :
    ∃ u, d.Furnishes u ∧ u.write path bytes = .ok d' := by
  obtain ⟨u, hu, h⟩ := bind_eq_ok_iff.mp h
  exact ⟨u, .makeAll hu, h⟩

theorem Keeps.writeWithParents (h : d.writeWithParents path bytes = .ok d') : d.Keeps d' := by
  obtain ⟨u, hu, h⟩ := writeWithParents_eq_ok h
  exact hu.toKeeps.trans (.write h)

theorem file?_writeWithParents (h : d.writeWithParents path bytes = .ok d') :
    ∃ place, d'.place path = .ok place ∧ ∀ p, p ≠ place → d'.file? p = d.file? p := by
  obtain ⟨u, hu, h⟩ := writeWithParents_eq_ok h
  obtain ⟨place, hplace, hother⟩ := file?_write h
  exact ⟨place, hplace, fun p hp => (hother p hp).trans (congrFun hu.files p)⟩

-- ### Files of one directory

-- A path that leads to a directory.
structure Opens (d : Disk) (path : String) (dir : List String) : Prop where
  place : d.place path = .ok dir
  directory : d.node? dir = some .directory

namespace Opens

theorem kept (h : d.Opens path dir) (hd : d.Keeps d') : d'.Opens path dir := by
  obtain ⟨hnul, hleads⟩ := leads_of_walk h.place
  refine ⟨(hleads.kept hd fun hend => ?_).walk hnul, hd.directory _ h.directory⟩
  rw [IsEnd, h.directory] at hend
  exact hend.elim

-- A file that is written into the directory is its entry.
theorem write (h : d.Opens base dir) (hparts : Path.parts path = Path.parts base ++ [name])
    (hup : name ≠ "..") (hlink : ∀ t, d.node? (dir ++ [name]) ≠ some (.link t))
    (hwrite : d.write path bytes = .ok d') : name.utf8ByteSize ≤ maxName ∧
      '\x00' ∉ name.toList ∧ d' = d.set (dir ++ [name]) (.file bytes) := by
  obtain ⟨place, hplace, -, rfl⟩ := write_eq_ok hwrite
  obtain ⟨hnul, hleads⟩ := leads_of_walk hplace
  rw [hparts] at hnul hleads
  obtain ⟨links, hnext⟩ :=
    (leads_of_walk h.place).2.of_append h.directory (List.cons_ne_nil _ _) hleads
  obtain ⟨rfl, hshort⟩ := hnext.entry hup hlink
  exact ⟨hshort, hnul name (List.mem_append_right _ (List.mem_singleton_self name)), rfl⟩

theorem removeFile (h : d.Opens base dir) (hparts : Path.parts path = Path.parts base ++ [name])
    (hup : name ≠ "..") (hshort : name.utf8ByteSize ≤ maxName) (hnul : '\x00' ∉ name.toList)
    (hfile : d.file? (dir ++ [name]) = some bytes) :
    d.removeFile path = .ok (d.erase (dir ++ [name])) := by
  have hnode := file?_eq_some_iff.mp hfile
  obtain ⟨hclean, hleads⟩ := leads_of_walk h.place
  have hplace : d.walk false (Path.parts path) = .ok (dir ++ [name]) := by
    rw [hparts]
    refine Leads.walk (List.forall_mem_append.mpr ⟨hclean, by simpa using hnul⟩) ?_
    refine hleads.append h.directory (List.cons_ne_nil _ _) fun links => .last links hup hshort ?_
    rw [IsEnd, hnode]
    trivial
  rw [Disk.removeFile, hplace]
  simp only [bind, Except.bind, hnode]
  rfl

end Opens

-- ### Disks that can come to be

-- What an entry of a directory can be called.
structure IsName (name : String) : Prop extends Path.IsPart name where
  up : name ≠ ".."
  short : name.utf8ByteSize ≤ maxName
  nul : '\x00' ∉ name.toList

instance (name : String) : Decidable (IsName name) :=
  decidable_of_iff (Path.IsPart name ∧ name ≠ ".." ∧ name.utf8ByteSize ≤ maxName ∧
      '\x00' ∉ name.toList)
    ⟨fun ⟨hpart, hup, hshort, hnul⟩ => ⟨hpart, hup, hshort, hnul⟩,
      fun h => ⟨h.toIsPart, h.up, h.short, h.nul⟩⟩

structure WellFormed (d : Disk) : Prop where
  distinct : (d.entries.map (·.1)).Nodup
  named : ∀ e ∈ d.entries, ∀ name ∈ e.1, IsName name
  targets : ∀ place target, (place, .link target) ∈ d.entries → '\x00' ∉ target.toList


theorem Leads.named (h : d.Leads follow links here rest place) (hd : d.WellFormed)
    (hhere : ∀ name ∈ here, IsName name)
    (hrest : ∀ p ∈ rest, Path.IsPart p ∧ '\x00' ∉ p.toList) : ∀ name ∈ place, IsName name := by
  have onward {p : String} {here : List String} (hp : Path.IsPart p ∧ '\x00' ∉ p.toList)
      (hup : p ≠ "..") (hshort : p.utf8ByteSize ≤ maxName) (hhere : ∀ name ∈ here, IsName name) :
      ∀ name ∈ here ++ [p], IsName name :=
    List.forall_mem_append.mpr ⟨hhere, List.forall_mem_singleton.mpr ⟨hp.1, hup, hshort, hp.2⟩⟩
  induction h with
  | here => exact hhere
  | up _ ih =>
      exact ih (fun name hname => hhere name (List.dropLast_subset _ hname))
        fun p hp => hrest p (List.mem_cons_of_mem _ hp)
  | last links hup hshort _ => exact onward (hrest _ List.mem_cons_self) hup hshort hhere
  | down hup hshort _ _ ih =>
      exact ih (onward (hrest _ List.mem_cons_self) hup hshort hhere)
        fun p hp => hrest p (List.mem_cons_of_mem _ hp)
  | link hup hshort hnode _ _ ih =>
      have htarget := hd.targets _ _ (mem_of_node? (by simp) hnode)
      refine ih ?_ (List.forall_mem_append.mpr ⟨fun p hp => ⟨Path.isPart_of_mem_parts hp, ?_⟩, ?_⟩)
      · split
        · exact fun _ => nofun
        · exact hhere
      · exact fun hnul => htarget (Path.mem_of_mem_parts hp hnul).1
      · exact fun p hp => hrest p (List.mem_cons_of_mem _ hp)

theorem WellFormed.walk_named (hd : d.WellFormed) (hparts : ∀ p ∈ parts, Path.IsPart p)
    (h : d.walk follow parts = .ok place) : ∀ name ∈ place, IsName name := by
  obtain ⟨hnul, hleads⟩ := leads_of_walk h
  exact hleads.named hd nofun fun p hp => ⟨hparts p hp, hnul p hp⟩

-- A way down is a path from where it begins.
theorem Meets.leads (h : d.Meets place way n) (hway : ∀ name ∈ way, IsName name)
    (hn : ∀ target, n ≠ .link target) (links : Nat) :
    d.Leads true links place way (place ++ way) := by
  have name {way : List String} {name : String} (hway : ∀ q ∈ name :: way, IsName q) :
      IsName name := hway name List.mem_cons_self
  induction h with
  | entry h =>
      rename_i place label n
      cases n with
      | directory => exact .down (name hway).up (name hway).short h (.here links _)
      | file bytes =>
          refine .last links (name hway).up (name hway).short ?_
          rw [IsEnd, h]
          trivial
      | link target => exact absurd rfl (hn target)
  | deeper hnode _ ih =>
      have h := ih (fun q hq => hway q (List.mem_cons_of_mem _ hq)) hn
      rw [List.append_assoc] at h
      exact .down (name hway).up (name hway).short hnode h

theorem Meets.named (h : d.Meets place way n) (hd : d.WellFormed) :
    ∀ name ∈ way, IsName name := by
  intro name hname
  have hne : place ++ way ≠ [] := by simp [h.ne_nil]
  exact hd.named _ (mem_of_node? hne h.node?) name (List.mem_append_right place hname)

theorem WellFormed.set (hd : d.WellFormed) (hplace : ∀ name ∈ place, IsName name)
    (hn : ∀ target, n ≠ .link target) : (d.set place n).WellFormed := by
  refine ⟨?_, ?_, ?_⟩
  · rw [Disk.set, List.map_append]
    refine List.nodup_append.mpr ⟨hd.distinct.sublist (List.filter_sublist.map _),
      List.nodup_singleton place, fun p hp q hq => ?_⟩
    obtain ⟨e, he, rfl⟩ := List.mem_map.mp hp
    rw [List.mem_singleton.mp hq]
    simpa using (List.mem_filter.mp he).2
  · refine List.forall_mem_append.mpr ⟨fun e he => ?_, List.forall_mem_singleton.mpr hplace⟩
    exact hd.named e (List.mem_filter.mp he).1
  · intro p target hlink
    rcases List.mem_append.mp hlink with hlink | hlink
    · exact hd.targets p target (List.mem_filter.mp hlink).1
    · exact absurd (Prod.ext_iff.mp (List.mem_singleton.mp hlink)).2.symm (hn target)

theorem WellFormed.write (hd : d.WellFormed) (h : d.write path bytes = .ok d') :
    d'.WellFormed := by
  obtain ⟨place, hplace, -, rfl⟩ := write_eq_ok h
  exact hd.set (hd.walk_named (fun _ => Path.isPart_of_mem_parts) hplace) nofun

theorem WellFormed.makeAll (hd : d.WellFormed) (hback : ∀ p ∈ back, Path.IsPart p)
    (h : d.makeAll back = .ok d') : d'.WellFormed := by
  refine makeAll_induction h hd fun u u' parts hparts hu hmade => ?_
  obtain ⟨place, hplace, -, rfl⟩ := makeDirectory_eq_ok hmade
  exact hu.set (hu.walk_named (fun p hp => hback p (hparts p hp)) hplace) nofun

inductive Creation where
  | file (path : String) (bytes : List UInt8)
  | directories (path : String)
  | fileWithParents (path : String) (bytes : List UInt8)

def Creation.make (d : Disk) : Creation → Except IoError Disk
  | .file path bytes => d.write path bytes
  | .directories path => d.makeDirectories path
  | .fileWithParents path bytes => d.writeWithParents path bytes

theorem WellFormed.make {c : Creation} (hd : d.WellFormed) (h : c.make d = .ok d') :
    d'.WellFormed := by
  cases c with
  | file path bytes => exact hd.write h
  | directories path =>
      exact hd.makeAll (fun p hp => Path.isPart_of_mem_parts (List.mem_reverse.mp hp)) h
  | fileWithParents path bytes =>
      obtain ⟨u, hu, h⟩ := bind_eq_ok_iff.mp h
      refine (hd.makeAll (fun p hp => ?_) hu).write h
      exact Path.isPart_of_mem_parts (List.dropLast_subset _ (List.mem_reverse.mp hp))

end Spiderworks.Disk
