import Mathlib.Data.List.Perm.Basic
import Spiderworks.Proofs.Engine.ArtifactNames
import Spiderworks.Proofs.Engine.DiskSteps

namespace Spiderworks

variable {s : Setup} {initial d d' : Disk} {dir : List String} {x : String} {spider : Int}
  {p : Stored} {k : Nat}

-- ### Lists of holders

variable {α : Type} {l : List α} {u v w : α}

theorem mem_set_iff (hk : l[k]? = some u) : w ∈ l.set k v ↔ w = v ∨ w ∈ l.eraseIdx k := by
  obtain ⟨hlt, -⟩ := List.getElem?_eq_some_iff.mp hk
  have hset : k < (l.set k v).length := by simpa using hlt
  have hperm := List.getElem_cons_eraseIdx_perm hset
  rw [List.getElem_set_self, List.eraseIdx_set_eq] at hperm
  rw [← hperm.mem_iff, List.mem_cons]

theorem mem_iff_of_getElem? (hk : l[k]? = some u) : w ∈ l ↔ w = u ∨ w ∈ l.eraseIdx k := by
  obtain ⟨hlt, rfl⟩ := List.getElem?_eq_some_iff.mp hk
  rw [← mem_set_iff hk, List.set_getElem_self]

-- By their executions, everyone who may have a program stored, with the one that is.
abbrev Holders := List (String × Option Stored)

variable {holders holders' : Holders}

-- Everyone at work has a name of their own.
structure Holders.Named (s : Setup) (holders : Holders) : Prop where
  distinct : (holders.map (·.1)).Nodup
  names : ∀ x ∈ holders.map (·.1), ∃ n, s.names n = x

theorem Holders.ne_of_mem_eraseIdx {held held' : Option Stored} {y : String}
    (hnodup : (holders.map (·.1)).Nodup) (hk : holders[k]? = some (x, held))
    (hy : (y, held') ∈ holders.eraseIdx k) : y ≠ x := by
  obtain ⟨hlt, hget⟩ := List.getElem?_eq_some_iff.mp hk
  have hperm := (List.getElem_cons_eraseIdx_perm hlt).map Prod.fst
  have hcons := hperm.nodup_iff.mpr hnodup
  rw [List.map_cons, List.nodup_cons, hget] at hcons
  rintro rfl
  exact hcons.1 (List.mem_map.mpr ⟨_, hy, rfl⟩)

-- Where an execution writes its program or takes it away, under every other name is what was.
theorem Holders.stored_iff {before after : Option Stored} {name : String} {bytes : List UInt8}
    (hk : holders[k]? = some (x, before))
    (hname : ∀ q, before = some q ∨ after = some q → Path.fileName? q.path ≠ some name) :
    (∃ y q, (y, some q) ∈ holders.set k (x, after) ∧
      Path.fileName? q.path = some name ∧ q.bytes = bytes) ↔
    ∃ y q, (y, some q) ∈ holders ∧ Path.fileName? q.path = some name ∧ q.bytes = bytes := by
  refine exists_congr fun y => exists_congr fun q => and_congr_left fun ⟨hq, _⟩ => ?_
  have hown (held : Option Stored) (hheld : before = held ∨ after = held) :
      (y, some q) ≠ (x, held) := by
    rintro heq
    rw [← (Prod.mk.inj heq).2] at hheld
    exact hname q hheld hq
  rw [mem_set_iff hk, mem_iff_of_getElem? hk]
  exact or_congr_left (iff_of_false (hown after (.inr rfl)) (hown before (.inl rfl)))

-- ### The directory of programs

-- A directory for programs. The names of executions are new to it, and no two are the same.
structure Setup.ProgramDirectory (s : Setup) (d : Disk) (dir : List String) : Prop where
  opens : d.Opens s.layout.scripts dir
  fresh : Function.Injective s.names
  plain : ∀ n, '/' ∉ (s.names n).toList
  free : ∀ n spider, ∀ extension ∈ programExtensions,
    d.node? (dir ++ [Layout.programName spider (s.names n) extension]) = none

-- A program that is there can be removed.
def Setup.RemovesPrograms (s : Setup) : Prop :=
  ∀ d n spider, ∀ extension ∈ programExtensions,
    (d.removeFile (s.layout.script spider (s.names n) extension)).isOk = true →
      s.removal (s.layout.script spider (s.names n) extension) d = none

-- A program that belongs to an execution, under a name that a file can have.
structure Stored.Placed (s : Setup) (spider : Int) (x : String) (p : Stored) : Prop
    extends Stored.Belongs s spider x p where
  short : (Layout.programName spider x p.program.extension).utf8ByteSize ≤ Disk.maxName
  nul : '\x00' ∉ (Layout.programName spider x p.program.extension).toList

theorem plain_of_mem {extension : String} (h : extension ∈ programExtensions) :
    '/' ∉ extension.toList ∧ '.' ∉ extension.toList := by
  revert extension
  decide

namespace Stored.Belongs

theorem parts_path (h : p.Belongs s spider x) (hx : '/' ∉ x.toList) : Path.parts p.path =
    Path.parts s.layout.scripts ++ [Layout.programName spider x p.program.extension] := by
  rw [h.path, Layout.parts_script hx (plain_of_mem h.extension).1]

theorem fileName?_path (h : p.Belongs s spider x) (hx : '/' ∉ x.toList) : Path.fileName? p.path =
    some (Layout.programName spider x p.program.extension) := by
  rw [h.path, Layout.fileName?_script hx (plain_of_mem h.extension).1]

theorem fileName?_ne {y : String} {spider' : Int} {extension : String} (h : p.Belongs s spider x)
    (hx : '/' ∉ x.toList) (hne : x ≠ y) (hextension : extension ∈ programExtensions) :
    Path.fileName? p.path ≠ some (Layout.programName spider' y extension) := by
  rw [h.fileName?_path hx]
  exact fun heq => hne (Layout.programName_inj (plain_of_mem h.extension).2
    (plain_of_mem hextension).2 (Option.some.inj heq)).2.1

end Stored.Belongs

-- What is in the directory while these have their programs there.
structure Shelved (s : Setup) (dir : List String) (initial : Disk) (d : Disk) (holders : Holders) :
    Prop where
  keeps : initial.Keeps d
  placed : ∀ x p, (x, some p) ∈ holders → ∃ spider, p.Placed s spider x
  files : ∀ name bytes, d.file? (dir ++ [name]) = some bytes ↔
    initial.file? (dir ++ [name]) = some bytes ∨
      ∃ x p, (x, some p) ∈ holders ∧ Path.fileName? p.path = some name ∧ p.bytes = bytes

namespace Shelved

theorem spares (h : Shelved s dir initial d holders) (hkeeps : d.Keeps d')
    (hfiles : ∀ name, d'.file? (dir ++ [name]) = d.file? (dir ++ [name])) :
    Shelved s dir initial d' holders where
  keeps := h.keeps.trans hkeeps
  placed := h.placed
  files name bytes := by rw [hfiles name, h.files]

theorem same (h : Shelved s dir initial d holders)
    (hholders : ∀ x p, (x, some p) ∈ holders' ↔ (x, some p) ∈ holders) :
    Shelved s dir initial d holders' where
  keeps := h.keeps
  placed x p hp := h.placed x p ((hholders x p).mp hp)
  files name bytes := by simp only [h.files, hholders]

variable {held : Option Stored}

theorem own_name (hdir : s.ProgramDirectory initial dir) (hnamed : Holders.Named s holders)
    (hk : holders[k]? = some (x, held)) : '/' ∉ x.toList ∧ ∀ spider, ∀ ext ∈ programExtensions,
      initial.node? (dir ++ [Layout.programName spider x ext]) = none := by
  obtain ⟨n, rfl⟩ := hnamed.names x (List.mem_map_of_mem (List.mem_of_getElem? hk))
  exact ⟨hdir.plain n, hdir.free n⟩

-- No other program has the name of one that belongs to this execution.
theorem other_name (hdir : s.ProgramDirectory initial dir) (hnamed : Holders.Named s holders)
    (h : Shelved s dir initial d holders) (hk : holders[k]? = some (x, held)) {y : String}
    {q : Stored} (hq : (y, some q) ∈ holders.eraseIdx k) {extension : String}
    (hextension : extension ∈ programExtensions) :
    Path.fileName? q.path ≠ some (Layout.programName spider x extension) := by
  have hmem : (y, some q) ∈ holders := List.mem_of_mem_eraseIdx hq
  obtain ⟨spider', hplaced⟩ := h.placed y q hmem
  obtain ⟨n, rfl⟩ := hnamed.names y (List.mem_map_of_mem hmem)
  exact hplaced.fileName?_ne (hdir.plain n)
    (Holders.ne_of_mem_eraseIdx hnamed.distinct hk hq) hextension

theorem writes (h : Shelved s dir initial d holders) (hdir : s.ProgramDirectory initial dir)
    (hnamed : Holders.Named s holders) (hk : holders[k]? = some (x, none))
    (hp : p.Belongs s spider x) (hwrite : d.write p.path p.bytes = .ok d') :
    Shelved s dir initial d' (holders.set k (x, some p)) := by
  obtain ⟨hx, hfree⟩ := own_name hdir hnamed hk
  have hnone := hfree spider _ hp.extension
  have hlink (t : String) : d.node? (dir ++ [Layout.programName spider x p.program.extension]) ≠
      some (.link t) := by
    rw [Ne, h.keeps.link, hnone]
    exact nofun
  obtain ⟨hshort, hnul, rfl⟩ := (hdir.opens.kept h.keeps).write (hp.parts_path hx)
    Layout.programName_ne_up hlink hwrite
  have hnew (y : String) (q : Stored) : (y, some q) ∈ holders.set k (x, some p) ↔
      y = x ∧ q = p ∨ (y, some q) ∈ holders.eraseIdx k := by
    simp [mem_set_iff hk]
  refine ⟨h.keeps.trans (.write hwrite), fun y q hq => ?_, fun name bytes => ?_⟩
  · rcases (hnew y q).mp hq with ⟨rfl, rfl⟩ | hq
    · exact ⟨spider, hp, hshort, hnul⟩
    · exact h.placed y q (List.mem_of_mem_eraseIdx hq)
  · by_cases hname : name = Layout.programName spider x p.program.extension
    · have hinitial : initial.file? (dir ++ [name]) = none := by
        rw [hname, Disk.file?, hnone]
      rw [hinitial, hname, Disk.file?_set_self (by simp)]
      constructor
      · intro hbytes
        exact .inr ⟨x, p, (hnew x p).mpr (.inl ⟨rfl, rfl⟩), hp.fileName?_path hx,
          Option.some.inj hbytes⟩
      · rintro (hbytes | ⟨y, q, hq, hqname, rfl⟩)
        · cases hbytes
        · rcases (hnew y q).mp hq with ⟨-, rfl⟩ | hq
          · rfl
          · exact absurd hqname (h.other_name hdir hnamed hk hq hp.extension)
    · have hother : dir ++ [name] ≠ dir ++ [Layout.programName spider x p.program.extension] :=
        fun heq => hname (by simpa using heq)
      rw [Disk.file?_congr (Disk.node?_set_other hother d _), h.files]
      refine or_congr_right (Holders.stored_iff hk ?_).symm
      rintro q (hq | hq) <;> cases hq
      rw [hp.fileName?_path hx]
      exact fun heq => hname (Option.some.inj heq).symm

theorem removes (h : Shelved s dir initial d holders) (hdir : s.ProgramDirectory initial dir)
    (hremoves : s.RemovesPrograms) (hnamed : Holders.Named s holders)
    (hk : holders[k]? = some (x, some p)) :
    Shelved s dir initial (s.without d p.path) (holders.set k (x, none)) := by
  obtain ⟨hx, hfree⟩ := own_name hdir hnamed hk
  obtain ⟨spider, hp⟩ := h.placed x p (List.mem_of_getElem? hk)
  have hnone := hfree spider _ hp.extension
  have hfile : d.file? (dir ++ [Layout.programName spider x p.program.extension]) =
      some p.bytes := (h.files _ _).mpr
    (.inr ⟨x, p, List.mem_of_getElem? hk, hp.fileName?_path hx, rfl⟩)
  have hremove := (hdir.opens.kept h.keeps).removeFile (hp.parts_path hx)
    Layout.programName_ne_up hp.short hp.nul hfile
  have hallowed : s.removal p.path d = none := by
    obtain ⟨n, rfl⟩ := hnamed.names x (List.mem_map_of_mem (List.mem_of_getElem? hk))
    rw [hp.path] at hremove ⊢
    exact hremoves d n spider _ hp.extension (by rw [hremove]; rfl)
  have hremoved : s.without d p.path =
      d.erase (dir ++ [Layout.programName spider x p.program.extension]) := by
    rw [Setup.without, Setup.removeFile, hallowed]
    simp only [hremove]
  have hnew (y : String) (q : Stored) :
      (y, some q) ∈ holders.set k (x, none) ↔ (y, some q) ∈ holders.eraseIdx k := by
    simp [mem_set_iff hk]
  rw [hremoved]
  refine ⟨h.keeps.trans (.erase hfile), fun y q hq => ?_, fun name bytes => ?_⟩
  · exact h.placed y q (List.mem_of_mem_eraseIdx ((hnew y q).mp hq))
  · by_cases hname : name = Layout.programName spider x p.program.extension
    · have hinitial : initial.file? (dir ++ [name]) = none := by
        rw [hname, Disk.file?, hnone]
      have hgone : (d.erase (dir ++ [name])).file? (dir ++ [name]) = none := by
        rw [Disk.file?, Disk.node?_erase_self (by simp)]
      rw [← hname, hgone, hinitial]
      refine iff_of_false (Option.some_ne_none bytes).symm ?_
      rintro (hbytes | ⟨y, q, hq, hqname, -⟩)
      · cases hbytes
      · rw [hname] at hqname
        exact h.other_name hdir hnamed hk ((hnew y q).mp hq) hp.extension hqname
    · have hother : dir ++ [name] ≠ dir ++ [Layout.programName spider x p.program.extension] :=
        fun heq => hname (by simpa using heq)
      rw [Disk.file?_congr (Disk.node?_erase_other hother d), h.files]
      refine or_congr_right (Holders.stored_iff hk ?_).symm
      rintro q (hq | hq) <;> cases hq
      rw [hp.fileName?_path hx]
      exact fun heq => hname (Option.some.inj heq).symm

theorem handles {before after : Option Stored} (h : Shelved s dir initial d holders)
    (hdir : s.ProgramDirectory initial dir) (hremoves : s.RemovesPrograms)
    (hnamed : Holders.Named s holders) (hk : holders[k]? = some (x, before))
    (hstep : Handles s spider x d before d' after) :
    Shelved s dir initial d' (holders.set k (x, after)) := by
  cases hstep with
  | rests =>
      obtain ⟨hlt, hget⟩ := List.getElem?_eq_some_iff.mp hk
      rwa [← hget, List.set_getElem_self]
  | writes hu hp hwrite =>
      exact (h.spares hu.toKeeps fun name => congrFun hu.files _).writes hdir hnamed hk hp hwrite
  | removes => exact h.removes hdir hremoves hnamed hk

end Shelved

end Spiderworks
