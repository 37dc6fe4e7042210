import Spiderworks.Proofs.Json.Canonical
import Spiderworks.Proofs.Rules.Config
import Spiderworks.Proofs.Store.Rows

namespace Spiderworks

open Time (Instant)

-- ### Configurations as texts

theorem Definition.configOf_compact {config : List (String × Json)}
    (h : Json.Printable Json.depthLimit (.obj config)) :
    configOf (Json.compact (.obj config)) = config := by
  rw [configOf, h.read?_compact]

-- The empty object, which stands for all texts that are none, has a text of its own as well.
theorem Definition.printable_configOf {text : String}
    (h : Json.DoublesReread (.obj (configOf text))) :
    Json.Printable Json.depthLimit (.obj (configOf text)) := by
  rw [configOf] at h ⊢
  split
  · rename_i entries hread
    rw [hread] at h
    exact Json.printable_of_read? hread h
  · exact .obj List.nodup_nil (List.forall_mem_nil _)

theorem Definition.kind_eq_rules_iff (d : Definition) :
    d.kind = .rules ↔ Entries.get? d.config "type" = some (.str "rules") := by
  unfold kind
  split
  · rename_i h
    exact iff_of_true rfl h
  · rename_i h
    exact iff_of_false nofun h

-- ### Rows

-- The spider that a new one is read back as.
def NewSpider.spider (n : NewSpider) (id : Int) : Spider :=
  ⟨id, n.name, n.description, n.code, .inactive, n.config, none, 0, 0, 0⟩

theorem NewSpider.definition_spider (n : NewSpider) (id : Int) :
    (n.spider id).definition = ⟨id, n.name, n.code, Definition.configOf n.config⟩ := rfl

def SpiderRow.definition (r : SpiderRow) : Definition :=
  ⟨r.id, r.name, r.code, Definition.configOf r.config⟩

-- Reading a row leaves its definition alone.
theorem SpiderRow.definition_of_read {row : SpiderRow} {x : Spider} (h : row.read = .ok x) :
    x.definition = row.definition := by
  rw [(SpiderRow.reads h).fields]
  rfl

theorem SpiderRow.Continues.definition_eq {r r' : SpiderRow} (h : r.Continues r') :
    r'.definition = r.definition := by
  rw [definition, h.id, h.name, h.code, h.config, definition]

namespace Store

variable {s t : Store} {op : Operation} {x : Step} {d : Definition}

-- The row of this number is a spider with this definition.
def Defines (s : Store) (d : Definition) : Prop :=
  ∃ row, s.spiders.find? (·.id == d.id) = some row ∧ row.definition = d

theorem step_spider (s : Store) (id : Int) :
    (s.step (.ask (.spider id))).1 = (s.spider? id).map Answer.spider := by
  rw [step_ask, Operation.apply]
  cases s.spider? id <;> rfl

-- Whoever gets the spider gets this definition.
theorem Defines.answer (h : s.Defines d) {found : Option Spider}
    (hget : (s.step (.ask (.spider d.id))).1 = .ok (.spider found)) :
    ∃ x, found = some x ∧ x.definition = d := by
  obtain ⟨row, hrow, hd⟩ := h
  rw [step_spider, Store.spider?, hrow] at hget
  obtain ⟨y, hy, heq⟩ := map_eq_ok_iff.mp hget
  cases heq
  obtain ⟨x, hx, rfl⟩ := map_eq_ok_iff.mp hy
  exact ⟨x, rfl, (SpiderRow.definition_of_read hx).trans hd⟩

theorem Defines.of_rows (h : s.Defines d) {rows : List SpiderRow}
    (ht : t.spiders = s.spiders ++ rows) : t.Defines d := by
  obtain ⟨row, hrow, hd⟩ := h
  exact ⟨row, by rw [ht, List.find?_append, hrow, Option.some_or], hd⟩

theorem Defines.change (h : s.Defines d) (id : Int) {f : SpiderRow → SpiderRow}
    (hf : ∀ r : SpiderRow, r.Continues (f r)) : (s.change id f).Defines d := by
  obtain ⟨row, hrow, rfl⟩ := h
  refine ⟨if row.id = id then f row else row, ?_, ?_⟩
  · exact (find?_rewrite (fun r => (hf r).id) s.spiders _).trans (by rw [hrow]; rfl)
  · split
    · exact (hf row).definition_eq
    · rfl

theorem Defines.delete (h : s.Defines d) {id : Int} (hid : id ≠ d.id) :
    (s.delete id).Defines d := by
  obtain ⟨row, hrow, hd⟩ := h
  refine ⟨row, ?_, hd⟩
  have hsame : (fun r : SpiderRow => decide ((r.id != id) = true ∧ (r.id == d.id) = true)) =
      fun r => r.id == d.id := by
    funext r
    by_cases hr : r.id = d.id
    · simp [hr, hid.symm]
    · simp [hr]
  rw [Store.delete, List.find?_filter, hsame, hrow]

-- No operation changes what a spider is defined by.
theorem Defines.keeps (h : s.Defines d) (heffect : s.Effect op t) : t.Defines d := by
  cases heffect with
  | unchanged | logged | set => exact h
  | created => exact h.of_rows rfl
  | changed _ id _ hf => exact h.change id hf
  | loggedAll ht => exact h.of_rows (by rw [appendLogs_spiders ht, List.append_nil])
  | registered ht => exact h.of_rows (by rw [registerFile_spiders ht, List.append_nil])

theorem Defines.step (h : s.Defines d) (hx : x ≠ .delete d.id) : (s.step x).2.Defines d := by
  cases x with
  | ask op =>
      rw [step_ask]
      cases hop : op.apply s with
      | error e => exact h
      | ok found => exact h.keeps (apply_effect hop)
  | delete id => exact h.delete fun heq => hx (heq ▸ rfl)
  | reopen => exact h

theorem Defines.perform {steps : List Step} (h : s.Defines d) (hkept : .delete d.id ∉ steps) :
    (s.perform steps).Defines d := by
  induction steps generalizing s with
  | nil => exact h
  | cons x rest ih =>
      have hx : x ≠ .delete d.id := fun heq => hkept (heq ▸ List.mem_cons_self)
      exact ih (h.step hx) fun hmem => hkept (List.mem_cons_of_mem x hmem)

-- ### Creation

theorem step_create {n : NewSpider} (hnew : ∀ r ∈ s.spiders, r.name ≠ n.name) :
    s.step (.ask (.create n)) = (.ok (.number (s.lastSpider + 1)), s.created n) := by
  have hfree : ¬s.spiders.any (·.name == n.name) = true := by simpa using hnew
  simp only [step_ask, Operation.apply, create, if_neg hfree]
  rfl

-- A new spider has a number that none had before.
theorem find?_created (hs : Table.spiders.Numbered s) (n : NewSpider) :
    ∃ row, (s.created n).spiders.find? (·.id == s.lastSpider + 1) = some row ∧
      row.read = .ok (n.spider (s.lastSpider + 1)) := by
  have hnone : s.spiders.find? (·.id == s.lastSpider + 1) = none := by
    refine List.find?_eq_none.mpr fun r hr heq => ?_
    have hle : r.id ≤ s.lastSpider := hs.known r.id (List.mem_map_of_mem hr)
    have heq : r.id = s.lastSpider + 1 := by simpa using heq
    omega
  rw [created, List.find?_append, hnone, Option.none_or]
  exact ⟨_, List.find?_cons_of_pos (beq_self_eq_true _), rfl⟩

theorem created_answer (hs : Table.spiders.Numbered s) (n : NewSpider) :
    ((s.created n).step (.ask (.spider (s.lastSpider + 1)))).1 =
      .ok (.spider (some (n.spider (s.lastSpider + 1)))) := by
  obtain ⟨row, hrow, hread⟩ := find?_created hs n
  rw [step_spider, Store.spider?, hrow]
  simp only [hread]
  rfl

theorem created_defines (hs : Table.spiders.Numbered s) (n : NewSpider) :
    (s.created n).Defines (n.spider (s.lastSpider + 1)).definition := by
  obtain ⟨row, hrow, hread⟩ := find?_created hs n
  exact ⟨row, hrow, (SpiderRow.definition_of_read hread).symm⟩

-- A spider that is created is got back with its configuration, at once and whenever it can be read
-- later on. Whatever text is stored, what it is read as has a text that is read as the same.
theorem configs_survive :
    (∀ (steps : List Step) (name : String) (description : Option String) (code : String)
      (config : List (String × Json)), Json.Printable Json.depthLimit (.obj config) →
      (∀ r ∈ (empty.perform steps).spiders, r.name ≠ name) →
      ∃ id t, (empty.perform steps).step
          (.ask (.create (.ofConfig name description code (.obj config)))) = (.ok (.number id), t) ∧
        (∃ x, (t.step (.ask (.spider id))).1 = .ok (.spider (some x)) ∧
          x.definition = ⟨id, name, code, config⟩ ∧
          (x.definition.kind = .rules ↔ Entries.get? config "type" = some (.str "rules"))) ∧
        ∀ later found, .delete id ∉ later →
          ((t.perform later).step (.ask (.spider id))).1 = .ok (.spider found) →
          ∃ x, found = some x ∧ x.definition = ⟨id, name, code, config⟩) ∧
    ∀ x : Spider, Json.DoublesReread (.obj x.definition.config) →
      { x with config := Json.compact (.obj x.definition.config) }.definition = x.definition := by
  constructor
  · intro steps name description code config hconfig hnew
    have hids := (Consistent.empty.perform steps).numbered .spiders
    have hdefinition (id : Int) :
        ((NewSpider.ofConfig name description code (.obj config)).spider id).definition =
          ⟨id, name, code, config⟩ := by
      rw [NewSpider.definition_spider, NewSpider.ofConfig, Definition.configOf_compact hconfig]
    have hdefines := created_defines hids (.ofConfig name description code (.obj config))
    rw [hdefinition] at hdefines
    refine ⟨_, _, step_create hnew, ⟨_, created_answer hids _, hdefinition _, ?_⟩, ?_⟩
    · rw [Definition.kind_eq_rules_iff, hdefinition]
    · exact fun later found hkept hget => (hdefines.perform hkept).answer hget
  · intro x hx
    have hsame := Definition.configOf_compact (Definition.printable_configOf hx)
    simp only [Spider.definition] at hsame ⊢
    rw [hsame]

-- Keys out of order, a line feed in one of them, and a double.
def listed : List (String × Json) :=
  [("z", .num (.double 2.5)), ("type", .str "rules"),
    ("a\n", .arr [.obj [("é", .null)], .ofInt (-3)])]

-- A text with space in it, a key that comes again and a double with a zero too many.
def Spider.spaced : Spider :=
  ⟨7, "news", none, "", .inactive, "\x7b \"b\": 1, \"a\": [2.50], \"b\": \x7b\x7d \x7d", none,
    0, 0, 0⟩

theorem configs_survive_listed :
    Json.Printable Json.depthLimit (.obj listed) ∧
    (∃ id t, (empty.perform [newsCreated]).step
        (.ask (.create (.ofConfig "shop" none "pass" (.obj listed)))) = (.ok (.number id), t) ∧
      ∃ x, (t.step (.ask (.spider id))).1 = .ok (.spider (some x)) ∧
        x.definition = ⟨id, "shop", "pass", listed⟩ ∧ x.definition.kind = .rules) ∧
    Json.DoublesReread (.obj Spider.spaced.definition.config) ∧
    Json.compact (.obj Spider.spaced.definition.config) = "\x7b\"b\":\x7b\x7d,\"a\":[2.5]\x7d" ∧
    { Spider.spaced with
      config := Json.compact (.obj Spider.spaced.definition.config) }.definition =
        Spider.spaced.definition := by
  have hlisted : Json.Printable Json.depthLimit (.obj listed) := by
    have hnull : Json.Printable 125 (.obj [("é", .null)]) :=
      .obj (List.nodup_singleton _) (List.forall_mem_singleton.mpr .null)
    have hitems : Json.Printable 126 (.arr [.obj [("é", .null)], .ofInt (-3)]) :=
      .arr (List.forall_mem_cons.mpr ⟨hnull, List.forall_mem_singleton.mpr (.whole (by decide))⟩)
    have hdouble : (Number.double 2.5).Rereads := Number.rereads_of_check (by decide +kernel)
    exact .obj (by decide) (List.forall_mem_cons.mpr ⟨.double hdouble,
      List.forall_mem_cons.mpr ⟨.str _, List.forall_mem_singleton.mpr hitems⟩⟩)
  have hspaced : Json.DoublesReread (.obj Spider.spaced.definition.config) :=
    Json.doublesReread_of_check (by decide +kernel)
  obtain ⟨id, t, hcreated, ⟨x, hget, hx, hkind⟩, -⟩ :=
    configs_survive.1 [newsCreated] "shop" none "pass" listed hlisted (by decide)
  exact ⟨hlisted, ⟨id, t, hcreated, x, hget, hx, hkind.mpr rfl⟩, hspaced, by decide +kernel,
    configs_survive.2 Spider.spaced hspaced⟩

end Store

end Spiderworks
