import Mathlib.Algebra.Ring.Nat
import Spiderworks.Output.Ingest
import Spiderworks.Proofs.Disk.Persistence
import Spiderworks.Proofs.Store.Filing
import Spiderworks.Proofs.Store.Notes

namespace Spiderworks.Ingest

-- ### What a run has left

section

variable {l : Layout} {r : Run} {d d' : Disk} {way other : List String} {bytes : List UInt8}

-- A regular file below the output directory that is reached without following a link.
def Left (l : Layout) (r : Run) (d : Disk) (way : List String) (bytes : List UInt8) : Prop :=
  ∃ place, d.place (l.outputDir r.spider r.execution) = .ok place ∧
    d.node? place = some .directory ∧ d.Meets place way (.file bytes)

def leftFile (l : Layout) (r : Run) (way : List String) (bytes : List UInt8) : NewFile :=
  foundFile l r (String.intercalate "/" way) bytes.length

def leftPath (l : Layout) (r : Run) (way : List String) : String :=
  Path.join (l.outputDir r.spider r.execution) (String.intercalate "/" way)

theorem found_of_isDirectory {place : List String}
    (hplace : d.place (l.outputDir r.spider r.execution) = .ok place)
    (hnode : d.node? place = some .directory) : found l r d =
      (d.filesBelow place).map fun p => (String.intercalate "/" p, fileSize d (place ++ p)) := by
  simp only [found, Disk.isDirectory_iff.mpr ⟨place, hplace, hnode⟩, hplace, ↓reduceIte]

theorem mem_found_iff {f : String × Nat} : f ∈ found l r d ↔
    ∃ way bytes, Left l r d way bytes ∧ f = (String.intercalate "/" way, bytes.length) := by
  by_cases hdir : d.isDirectory (l.outputDir r.spider r.execution) = true
  · obtain ⟨place, hplace, hnode⟩ := Disk.isDirectory_iff.mp hdir
    simp only [found_of_isDirectory hplace hnode, List.mem_map, Disk.mem_filesBelow_iff]
    constructor
    · rintro ⟨way, ⟨bytes, h⟩, rfl⟩
      exact ⟨way, bytes, ⟨place, hplace, hnode, h⟩, by rw [fileSize, h.node?]⟩
    · rintro ⟨way, bytes, ⟨_, hsame, -, h⟩, rfl⟩
      rw [hplace] at hsame
      cases hsame
      exact ⟨way, ⟨bytes, h⟩, by rw [fileSize, h.node?]⟩
  · simp only [found, hdir, Bool.false_eq_true, ↓reduceIte, List.not_mem_nil, false_iff]
    rintro ⟨way, bytes, ⟨place, hplace, hnode, -⟩, -⟩
    exact hdir (Disk.isDirectory_iff.mpr ⟨place, hplace, hnode⟩)

theorem Left.named (h : Left l r d way bytes) (hd : d.WellFormed) :
    ∀ name ∈ way, Disk.IsName name := by
  obtain ⟨place, -, -, hmeets⟩ := h
  exact hmeets.named hd

theorem Left.bytes_eq {bytes' : List UInt8} (h : Left l r d way bytes)
    (h' : Left l r d way bytes') : bytes = bytes' := by
  obtain ⟨place, hplace, -, hmeets⟩ := h
  obtain ⟨_, hsame, -, hmeets'⟩ := h'
  rw [hplace] at hsame
  cases hsame
  have heq := hmeets.node?.symm.trans hmeets'.node?
  simpa using heq

theorem parts_leftPath (hway : ∀ name ∈ way, Path.IsPart name) :
    Path.parts (leftPath l r way) =
      Path.parts (l.outputDir r.spider r.execution) ++ way := by
  rw [leftPath, Path.parts_join (Path.isAbsolute_intercalate hway), Path.parts_intercalate hway]

-- Two files that were left have two paths.
theorem Left.way_eq {bytes' : List UInt8} (hd : d.WellFormed) (h : Left l r d way bytes)
    (h' : Left l r d other bytes') (heq : leftPath l r way = leftPath l r other) : way = other := by
  have hparts := congrArg Path.parts heq
  rw [parts_leftPath fun name hname => (h.named hd name hname).toIsPart,
    parts_leftPath fun name hname => (h'.named hd name hname).toIsPart] at hparts
  exact List.append_cancel_left hparts

-- The path by which a file is registered leads to it.
theorem Left.read (h : Left l r d way bytes) (hd : d.WellFormed) :
    d.read (leftPath l r way) = .ok bytes := by
  have hnamed := h.named hd
  obtain ⟨place, hplace, hnode, hmeets⟩ := h
  obtain ⟨hnul, hleads⟩ := Disk.leads_of_walk hplace
  have hall := hleads.append hnode hmeets.ne_nil (hmeets.leads hnamed nofun)
  have hfound : d.place (leftPath l r way) = .ok (place ++ way) := by
    rw [Disk.place, parts_leftPath fun name hname => (hnamed name hname).toIsPart]
    exact hall.walk (List.forall_mem_append.mpr ⟨hnul, fun name hname => (hnamed name hname).nul⟩)
  have hstat : d.stat (leftPath l r way) = .ok (.file bytes) := by
    rw [Disk.stat, hfound]
    simp only [bind, Except.bind, hmeets.node?]
    rfl
  rw [Disk.read, hstat]
  rfl

-- The order in which the disk lists its entries does not show.
theorem found_eq (h : d.Relisted d') (l : Layout) (r : Run) : found l r d' = found l r d := by
  by_cases hdir : d.isDirectory (l.outputDir r.spider r.execution) = true
  · obtain ⟨place, hplace, hnode⟩ := Disk.isDirectory_iff.mp hdir
    rw [found_of_isDirectory hplace hnode,
      found_of_isDirectory (h.place_eq_ok hplace) ((h.node?_eq place).trans hnode),
      h.filesBelow_eq]
    simp only [fileSize, h.node?_eq]
  · have hdir' : ¬d'.isDirectory (l.outputDir r.spider r.execution) = true := by
      rw [Disk.isDirectory_iff] at hdir ⊢
      rintro ⟨place, hplace, hnode⟩
      exact hdir ⟨place, h.symm.place_eq_ok hplace, (h.symm.node?_eq place).trans hnode⟩
    rw [found, if_neg hdir', found, if_neg hdir]

end

open Time (Clock Instant)

variable {l : Layout} {clock later : Clock} {now : Instant} {r : Run} {x y z : Site} {count : Nat}

-- ### One scan

-- Only the store changes while files are registered.
theorem run_registerAll_disk (x : Site) (d : Disk) (fs : List (String × Nat)) :
    Site.run { x with disk := d } (registerAll l clock r fs) =
      ((x.run (registerAll l clock r fs)).1,
        { (x.run (registerAll l clock r fs)).2 with disk := d }) := by
  induction fs generalizing x clock with
  | nil => rfl
  | cons f rest ih =>
      simp only [registerAll, registerFound, Site.run_bind, Site.run_session]
      rcases x.shared.run (do Session.hold; registerNew (clock 0) (foundFile l r f.1 f.2)) with
        ⟨_ | new, shared⟩
      · rfl
      · have h := @ih (clock.after 1) { x with shared := shared }
        dsimp only at h ⊢
        rw [h]
        rcases Site.run { x with shared := shared } (registerAll l (clock.after 1) r rest) with
          ⟨_ | m, y⟩ <;> rfl

theorem acquires_of_registerFound {f : String × Nat} {new : Bool}
    (h : x.run (registerFound l now r f) = (.ok new, y)) :
    y.disk = x.disk ∧ ∃ rows, x.shared.store.Acquires rows y.shared.store ∧
      rows.length = new.toNat ∧ (∀ row ∈ rows, ∃ id, row = (foundFile l r f.1 f.2).row id now) ∧
      ∃ row, y.shared.store.fileRow? r.spider (foundFile l r f.1 f.2).path = some row := by
  obtain ⟨hrun, hdisk⟩ := Site.session_ok h
  exact ⟨hdisk, SharedStore.acquires_of_registerNew hrun⟩

theorem acquires_of_registerAll {fs : List (String × Nat)}
    (h : x.run (registerAll l clock r fs) = (.ok count, y)) :
    y.disk = x.disk ∧ ∃ rows, x.shared.store.Acquires rows y.shared.store ∧ rows.length = count ∧
      (∀ row ∈ rows, ∃ f ∈ fs, ∃ id i, row = (foundFile l r f.1 f.2).row id (clock i)) ∧
      ∀ f ∈ fs, ∃ row,
        y.shared.store.fileRow? r.spider (foundFile l r f.1 f.2).path = some row := by
  induction fs generalizing x count clock with
  | nil =>
      cases h
      exact ⟨rfl, [], .nothing _, rfl, List.forall_mem_nil _, List.forall_mem_nil _⟩
  | cons f rest ih =>
      rw [registerAll] at h
      obtain ⟨new, u, hfirst, h⟩ := Site.bind_ok h
      obtain ⟨more, v, hrest, h⟩ := Site.bind_ok h
      cases h
      obtain ⟨hdisk, rows, hrows, hlength, hfrom, hknown⟩ := acquires_of_registerFound hfirst
      obtain ⟨hdisk', rows', hrows', hlength', hfrom', hknown'⟩ := ih hrest
      refine ⟨hdisk'.trans hdisk, rows ++ rows', hrows.trans hrows', ?_, ?_, ?_⟩
      · rw [List.length_append, hlength, hlength']
      · refine List.forall_mem_append.mpr ⟨fun row hrow => ?_, fun row hrow => ?_⟩
        · obtain ⟨id, h⟩ := hfrom row hrow
          exact ⟨f, List.mem_cons_self, id, 0, h⟩
        · obtain ⟨g, hg, id, i, h⟩ := hfrom' row hrow
          exact ⟨g, List.mem_cons_of_mem f hg, id, 1 + i, h⟩
      · refine List.forall_mem_cons.mpr ⟨?_, hknown'⟩
        obtain ⟨row, hrow⟩ := hknown
        exact ⟨row, hrows'.kept hrow⟩

theorem scan_eq (x : Site) :
    x.run (scan l clock r) = x.run (registerAll l clock r (found l r x.disk)) := by
  rw [scan, Site.run_bind]
  rfl

-- A scan registers files that were left and no others, and all that were left are known then.
theorem acquires_of_scan (h : x.run (scan l clock r) = (.ok count, y)) :
    y.disk = x.disk ∧ ∃ rows, x.shared.store.Acquires rows y.shared.store ∧ rows.length = count ∧
      (∀ row ∈ rows, ∃ way bytes id i, Left l r x.disk way bytes ∧
        row = (leftFile l r way bytes).row id (clock i)) ∧
      ∀ way bytes, Left l r x.disk way bytes →
        ∃ row, y.shared.store.fileRow? r.spider (leftPath l r way) = some row := by
  rw [scan_eq] at h
  obtain ⟨hdisk, rows, hrows, hlength, hfrom, hknown⟩ := acquires_of_registerAll h
  refine ⟨hdisk, rows, hrows, hlength, fun row hrow => ?_, fun way bytes hleft => ?_⟩
  · obtain ⟨f, hf, id, i, rfl⟩ := hfrom row hrow
    obtain ⟨way, bytes, hleft, rfl⟩ := mem_found_iff.mp hf
    exact ⟨way, bytes, id, i, hleft, rfl⟩
  · exact hknown (String.intercalate "/" way, bytes.length)
      (mem_found_iff.mpr ⟨way, bytes, hleft, rfl⟩)

-- What a scan makes of the store `s`, where `rows` is what it adds.
structure Scanned (l : Layout) (clock : Clock) (r : Run) (d : Disk) (s : Store)
    (rows : List FileRow) (t : Store) : Prop where
  acquires : s.Acquires rows t
  distinct : (rows.map (·.path)).Nodup
  paths : ∀ path, path ∈ rows.map (·.path) ↔ s.fileRow? r.spider path = none ∧
    ∃ way bytes, Left l r d way bytes ∧ path = leftPath l r way
  origin : ∀ row ∈ rows, ∃ way bytes id i, Left l r d way bytes ∧
    row = (leftFile l r way bytes).row id (clock i)
  registered : ∀ way bytes, Left l r d way bytes → d.read (leftPath l r way) = .ok bytes ∧
    ∃ row, t.fileRow? r.spider (leftPath l r way) = some row ∧
      (s.fileRow? r.spider (leftPath l r way) = some row ∨
        ∃ id i, row = (leftFile l r way bytes).row id (clock i))
  absolute : Path.isAbsolute l.files = true → ∀ row ∈ rows, Path.isAbsolute row.path = true

theorem scanned (hd : x.disk.WellFormed) (h : x.run (scan l clock r) = (.ok count, y)) :
    ∃ rows, Scanned l clock r x.disk x.shared.store rows y.shared.store ∧ rows.length = count := by
  obtain ⟨-, rows, hrows, hlength, hfrom, hknown⟩ := acquires_of_scan h
  refine ⟨rows, ⟨hrows, ?_, fun path => ⟨fun hpath => ?_, ?_⟩, hfrom, fun way bytes hleft => ?_,
    fun hfiles row hrow => ?_⟩, hlength⟩
  · -- All of the rows are rows of one spider.
    have hspider : rows.map (fun row => (row.spider, row.path)) =
        (rows.map (·.path)).map fun path => (r.spider, path) := by
      rw [List.map_map]
      refine List.map_congr_left fun row hrow => ?_
      obtain ⟨way, bytes, id, i, -, rfl⟩ := hfrom row hrow
      rfl
    exact List.Nodup.of_map _ (hspider ▸ hrows.distinct)
  · obtain ⟨row, hrow, rfl⟩ := List.mem_map.mp hpath
    have hunknown := hrows.unknown row hrow
    obtain ⟨way, bytes, id, i, hleft, rfl⟩ := hfrom row hrow
    exact ⟨hunknown, way, bytes, hleft, rfl⟩
  · rintro ⟨hunknown, way, bytes, hleft, rfl⟩
    obtain ⟨row, hrow⟩ := hknown way bytes hleft
    rcases hrows.cases hrow with hbefore | ⟨-, hmem, -, hpath⟩
    · rw [hunknown] at hbefore
      cases hbefore
    · exact List.mem_map.mpr ⟨row, hmem, hpath⟩
  · obtain ⟨row, hrow⟩ := hknown way bytes hleft
    refine ⟨hleft.read hd, row, hrow, ?_⟩
    rcases hrows.cases hrow with hbefore | ⟨-, hmem, -, hpath⟩
    · exact .inl hbefore
    · obtain ⟨way', bytes', id, i, hleft', rfl⟩ := hfrom row hmem
      obtain rfl := hleft'.way_eq hd hleft hpath
      obtain rfl := hleft'.bytes_eq hleft
      exact .inr ⟨id, i, rfl⟩
  · obtain ⟨way, bytes, id, i, -, rfl⟩ := hfrom row hrow
    exact Path.isAbsolute_join (Path.isAbsolute_join (Path.isAbsolute_join hfiles))

-- A store that refuses nothing and has the spider lets a scan get to its end, and stays so.
structure Serves (r : Run) (s : SharedStore) : Prop where
  willing : s.Willing
  has : s.store.has r.spider = true

theorem Serves.session {α : Type} {p : Session α} {a : α} {t : SharedStore}
    (hs : Serves r x.shared) (hp : p.Keeps fun rows => rows.map (·.id))
    (hrun : x.shared.run p = (.ok a, t)) :
    x.run (Work.session p) = (.ok a, { x with shared := t }) ∧ Serves r t := by
  have hkeeps := hp x.shared
  rw [hrun] at hkeeps
  have hid : t.store.has r.spider = true := by
    rw [Store.has_iff]
    exact hkeeps.rows ▸ Store.has_iff.mp hs.has
  rw [Site.run_session_held hs.willing.poisoned, hrun]
  exact ⟨rfl, hkeeps.willing hs.willing, hid⟩

theorem Serves.registerNew (hs : Serves r x.shared) (now : Instant) {n : NewFile}
    (hn : n.spider = r.spider) :
    ∃ new t, x.run (Work.session (registerNew now n)) = (.ok new, { x with shared := t }) ∧
      Serves r t := by
  obtain ⟨new, t, hrun, -⟩ := hs.willing.run_registerNew now (hn ▸ hs.has)
  exact ⟨new, t, hs.session (.registerNew now n) hrun⟩

theorem exists_run_registerAll (fs : List (String × Nat)) (hs : Serves r x.shared) :
    ∃ count y, x.run (registerAll l clock r fs) = (.ok count, y) ∧ Serves r y.shared := by
  induction fs generalizing x clock with
  | nil => exact ⟨0, x, rfl, hs⟩
  | cons f rest ih =>
      obtain ⟨new, t, hfirst, ht⟩ := hs.registerNew (clock 0) (n := foundFile l r f.1 f.2) rfl
      obtain ⟨count, y, hrest, hserves⟩ := @ih (clock.after 1) { x with shared := t } ht
      refine ⟨new.toNat + count, y, ?_, hserves⟩
      rw [registerAll, registerFound, Site.run_bind, hfirst]
      dsimp only
      rw [Site.run_bind, hrest]
      rfl

-- ### Scans and creations

inductive Happening where
  | create (c : Disk.Creation)
  | scan (clock : Clock) (r : Run)

-- A course of events in which every scan succeeds, with what the scans answer.
inductive Course (l : Layout) : Site → List Happening → List Nat → Site → Prop
  | done (x : Site) : Course l x [] [] x
  | create {x y : Site} {c : Disk.Creation} {d : Disk} {hs : List Happening} {counts : List Nat} :
      c.make x.disk = .ok d → Course l { x with disk := d } hs counts y →
      Course l x (.create c :: hs) counts y
  | scan {x y z : Site} {clock : Clock} {r : Run} {count : Nat} {hs : List Happening}
      {counts : List Nat} : x.run (scan l clock r) = (.ok count, y) → Course l y hs counts z →
      Course l x (.scan clock r :: hs) (count :: counts) z

-- What a course of events leaves behind, where `rows` is what its scans have added.
structure Collected (l : Layout) (x : Site) (hs : List Happening) (counts : List Nat) (y : Site)
    (rows : List FileRow) : Prop where
  acquires : x.shared.store.Acquires rows y.shared.store
  total : counts.sum = rows.length
  origin : ∀ row ∈ rows, ∃ past clock r future earlier z, hs = past ++ .scan clock r :: future ∧
    Course l x past earlier z ∧ ∃ way bytes id i, Left l r z.disk way bytes ∧
      row = (leftFile l r way bytes).row id (clock i)
  covers : ∀ past clock r future earlier z, hs = past ++ .scan clock r :: future →
    Course l x past earlier z → ∀ way bytes, Left l r z.disk way bytes →
      ∃ row, y.shared.store.fileRow? r.spider (leftPath l r way) = some row

variable {hs others : List Happening} {counts : List Nat}

theorem Course.wellFormed (h : Course l x hs counts y) (hd : x.disk.WellFormed) :
    y.disk.WellFormed := by
  induction h with
  | done => exact hd
  | create hmake _ ih => exact ih (hd.make hmake)
  | scan hrun _ ih => exact ih ((acquires_of_scan hrun).1 ▸ hd)

theorem Course.collected (h : Course l x hs counts y) : ∃ rows, Collected l x hs counts y rows := by
  induction h with
  | done x =>
      refine ⟨[], .nothing _, rfl, List.forall_mem_nil _, fun past clock r future _ _ heq => ?_⟩
      simp at heq
  | create hmake _ ih =>
      obtain ⟨rows, ih⟩ := ih
      refine ⟨rows, ih.acquires, ih.total, fun row hrow => ?_, ?_⟩
      · obtain ⟨past, clock, r, future, earlier, z, rfl, hpast, hrow⟩ := ih.origin row hrow
        exact ⟨_ :: past, clock, r, future, earlier, z, rfl, .create hmake hpast, hrow⟩
      · intro past clock r future earlier z heq hpast
        cases hpast with
        | done => cases heq
        | create hmake' hpast =>
            cases heq
            rw [hmake] at hmake'
            cases hmake'
            exact ih.covers _ clock r future earlier z rfl hpast
        | scan => cases heq
  | scan hrun _ ih =>
      obtain ⟨hdisk, rows, hrows, hlength, hfrom, hknown⟩ := acquires_of_scan hrun
      obtain ⟨more, ih⟩ := ih
      refine ⟨rows ++ more, hrows.trans ih.acquires, ?_, ?_, ?_⟩
      · rw [List.sum_cons, List.length_append, hlength, ih.total]
      · refine List.forall_mem_append.mpr ⟨fun row hrow => ?_, fun row hrow => ?_⟩
        · exact ⟨[], _, _, _, [], _, rfl, .done _, hfrom row hrow⟩
        · obtain ⟨past, clock, r, future, earlier, z, rfl, hpast, hrow⟩ := ih.origin row hrow
          exact ⟨_ :: past, clock, r, future, _, z, rfl, .scan hrun hpast, hrow⟩
      · intro past clock r future earlier z heq hpast way bytes hleft
        cases hpast with
        | done =>
            cases heq
            obtain ⟨row, hrow⟩ := hknown way bytes hleft
            exact ⟨row, ih.acquires.kept hrow⟩
        | create => cases heq
        | scan hrun' hpast =>
            cases heq
            rw [hrun] at hrun'
            cases hrun'
            exact ih.covers _ clock r future _ z rfl hpast way bytes hleft

theorem Course.disk_eq (h : Course l x hs counts y) (hscans : ∀ c, .create c ∉ hs) :
    y.disk = x.disk := by
  induction h with
  | done => rfl
  | create => exact absurd List.mem_cons_self (hscans _)
  | scan hrun _ ih =>
      rw [ih fun c hc => hscans c (List.mem_cons_of_mem _ hc), (acquires_of_scan hrun).1]

-- What has been scanned is not scanned anew while the disk stays as it is.
theorem rescan {again : Nat} {w : Site} (h : x.run (scan l clock r) = (.ok count, y))
    (hcourse : Course l y others counts z) (hscans : ∀ c, .create c ∉ others)
    (hagain : z.run (scan l later r) = (.ok again, w)) :
    again = 0 ∧ w.shared.store = z.shared.store := by
  obtain ⟨hdisk, -, -, -, -, hknown⟩ := acquires_of_scan h
  obtain ⟨more, hmore⟩ := hcourse.collected
  obtain ⟨-, rows, hrows, hlength, hfrom, -⟩ := acquires_of_scan hagain
  have hsame : z.disk = x.disk := (hcourse.disk_eq hscans).trans hdisk
  have hnone : rows = [] := by
    refine List.eq_nil_iff_forall_not_mem.mpr fun row hrow => ?_
    have hunknown := hrows.unknown row hrow
    obtain ⟨way, bytes, id, i, hleft, rfl⟩ := hfrom row hrow
    obtain ⟨known, hfound⟩ := hknown way bytes (hsame ▸ hleft)
    have hkept := hmore.acquires.kept hfound
    exact nomatch hkept.symm.trans hunknown
  subst hnone
  exact ⟨hlength.symm, hrows.eq_of_nil⟩

-- ### The whole

-- Every file that a run leaves is registered once: by one scan, in whatever order the disk lists
-- its entries, and in a course of scans and creations.
theorem registers_once :
    (∀ (l : Layout) (clock : Clock) (r : Run) (x y : Site) (count : Nat), x.disk.WellFormed →
      x.run (scan l clock r) = (.ok count, y) → y.disk = x.disk ∧
        ∃ rows, Scanned l clock r x.disk x.shared.store rows y.shared.store ∧ rows.length = count) ∧
    (∀ (l : Layout) (clock : Clock) (r : Run) (x : Site) (d : Disk), x.disk.Relisted d →
      Site.run { x with disk := d } (scan l clock r) =
        ((x.run (scan l clock r)).1, { (x.run (scan l clock r)).2 with disk := d })) ∧
    (∀ (l : Layout) (x y : Site) (hs : List Happening) (counts : List Nat),
      Course l x hs counts y → (x.disk.WellFormed → y.disk.WellFormed) ∧
        ∃ rows, Collected l x hs counts y rows) ∧
    (∀ (l : Layout) (clock later : Clock) (r : Run) (x y z w : Site) (others : List Happening)
      (counts : List Nat) (count again : Nat), x.run (scan l clock r) = (.ok count, y) →
      Course l y others counts z → (∀ c, .create c ∉ others) →
      z.run (scan l later r) = (.ok again, w) → again = 0 ∧ w.shared.store = z.shared.store) ∧
    ∀ (l : Layout) (clock : Clock) (r : Run) (x : Site), Serves r x.shared →
      ∃ count y, x.run (scan l clock r) = (.ok count, y) ∧ Serves r y.shared := by
  refine ⟨fun l clock r x y count hd h => ⟨(acquires_of_scan h).1, scanned hd h⟩,
    fun l clock r x d h => ?_, fun l x y hs counts h => ⟨h.wellFormed, h.collected⟩,
    fun l clock later r x y z w others counts count again h hcourse hscans hagain =>
      rescan h hcourse hscans hagain, fun l clock r x hs => ?_⟩
  · rw [scan_eq, scan_eq, found_eq h]
    exact run_registerAll_disk x d _
  · rw [scan_eq]
    exact exists_run_registerAll _ hs

def smallLayout : Layout := ⟨"/f", "/l", "/s"⟩

def smallRun : Run := ⟨1, "e"⟩

-- A file, another one in a directory, and a link to the directory.
def smallDisk : Disk :=
  ⟨[(["f"], .directory), (["f", "spider_1"], .directory), (["f", "spider_1", "e"], .directory),
    (["f", "spider_1", "e", "sub"], .directory),
    (["f", "spider_1", "e", "sub", "a.json"], .file [7]),
    (["f", "spider_1", "e", "list.csv"], .file [1, 2]),
    (["f", "spider_1", "e", "latest"], .link "sub")]⟩

def smallSite : Site := ⟨smallDisk, .ofStore (Store.empty.perform [Store.newsCreated])⟩

-- A clock that goes on by a second with every reading.
def ticking (start : Nat) : Clock := fun n => ⟨(start + n : Nat), 0⟩

-- The file gets larger.
def growth : Disk.Creation := .file "/f/spider_1/e/list.csv" [1, 2, 3]

theorem place_small : smallDisk.place "/f/spider_1/e" = .ok ["f", "spider_1", "e"] :=
  Disk.Leads.walk (by decide) (.down (by decide) (by decide) rfl (.down (by decide) (by decide) rfl
    (.down (by decide) (by decide) rfl (.here _ _))))

theorem left_small : Left smallLayout smallRun smallDisk ["sub", "a.json"] [7] :=
  ⟨_, place_small, rfl, .deeper rfl (.entry rfl)⟩

theorem wellFormed_small : smallDisk.WellFormed :=
  ⟨by decide, by decide, by simp [smallDisk]⟩

-- The same entries, listed backwards.
def backwards : Disk := ⟨smallDisk.entries.reverse⟩

theorem relisted_small : smallDisk.Relisted backwards :=
  ⟨wellFormed_small.distinct, (List.reverse_perm _).symm⟩

theorem serves_small : Serves smallRun smallSite.shared := ⟨⟨fun _ _ => rfl, rfl⟩, rfl⟩

theorem made_small : growth.make smallDisk =
    .ok (smallDisk.set ["f", "spider_1", "e", "list.csv"] (.file [1, 2, 3])) := by
  have hplace : smallDisk.place "/f/spider_1/e/list.csv" =
      .ok ["f", "spider_1", "e", "list.csv"] :=
    Disk.Leads.walk (by decide) (.down (by decide) (by decide) rfl (.down (by decide) (by decide)
      rfl (.down (by decide) (by decide) rfl (.last _ (by decide) (by decide) trivial))))
  rw [growth, Disk.Creation.make, Disk.write, hplace]
  rfl

-- The file in the directory is registered with the size that it has, a file that has grown is not
-- registered again, and a disk that lists its entries backwards is scanned with the same outcome.
theorem registers_once_small :
    ∃ (y z w : Site) (count again : Nat) (rows : List FileRow),
      smallSite.run (scan smallLayout (ticking 5) smallRun) = (.ok count, y) ∧
      (∃ row, y.shared.store.fileRow? 1 "/f/spider_1/e/sub/a.json" = some row ∧
        row.filename = "sub/a.json" ∧ row.size = 1 ∧ row.execution = some "e") ∧
      (Site.run { smallSite with disk := backwards } (scan smallLayout (ticking 5) smallRun)).1 =
        .ok count ∧
      Collected smallLayout smallSite
        [.scan (ticking 5) smallRun, .create growth, .scan (ticking 9) smallRun] [count, again] z
        rows ∧
      z.disk.WellFormed ∧
      z.run (scan smallLayout (ticking 13) smallRun) = (.ok 0, w) ∧
      w.shared.store = z.shared.store := by
  obtain ⟨hone, hlisted, hcourse, hrescan, hsuccess⟩ := registers_once
  obtain ⟨count, y, hfirst, hy⟩ := hsuccess smallLayout (ticking 5) smallRun smallSite serves_small
  obtain ⟨hdisk, rows, hscanned, -⟩ := hone _ _ _ _ _ _ wellFormed_small hfirst
  have hmade : growth.make y.disk =
      .ok (smallDisk.set ["f", "spider_1", "e", "list.csv"] (.file [1, 2, 3])) := by
    rw [hdisk]
    exact made_small
  obtain ⟨again, z, hsecond, hz⟩ := hsuccess smallLayout (ticking 9) smallRun
    { y with disk := smallDisk.set ["f", "spider_1", "e", "list.csv"] (.file [1, 2, 3]) } hy
  obtain ⟨third, w, hthird, -⟩ := hsuccess smallLayout (ticking 13) smallRun z hz
  obtain ⟨hwell, all, hall⟩ := hcourse _ _ _ _ _
    (.scan hfirst (.create hmade (.scan hsecond (.done z))))
  obtain ⟨hzero, hsame⟩ :=
    hrescan _ _ (ticking 13) _ _ _ _ _ [] [] _ _ hsecond (.done z) nofun hthird
  obtain ⟨-, row, hrow, hnew⟩ := hscanned.registered _ _ left_small
  have hdata : ∃ id i, row =
      (leftFile smallLayout smallRun ["sub", "a.json"] [7]).row id (ticking 5 i) :=
    hnew.resolve_left nofun
  have hname : String.intercalate "/" ["sub", "a.json"] = "sub/a.json" := by decide
  have hbackwards := hlisted smallLayout (ticking 5) smallRun smallSite backwards relisted_small
  refine ⟨y, z, w, count, again, all, hfirst, ⟨row, hrow, ?_⟩, ?_, hall, hwell wellFormed_small,
    hzero ▸ hthird, hsame⟩
  · obtain ⟨id, i, rfl⟩ := hdata
    exact ⟨hname, rfl, rfl⟩
  · exact (congrArg Prod.fst hbackwards).trans (congrArg Prod.fst hfirst)

end Spiderworks.Ingest
