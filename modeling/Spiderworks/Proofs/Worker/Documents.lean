import Spiderworks.Proofs.Json.Values
import Spiderworks.Proofs.Rules.Config
import Spiderworks.Spider.Synthesis
import Spiderworks.Worker.Run

namespace Spiderworks

namespace Worker

open Json (Ends IsRead Rereads newLine prettyChars prettyEntries quoted skipSpace escapeChar)

variable {d d' d'' : Draft} {key : String} {v : Json} {s t rest : List Char} {fuel l level : Nat}
  {entries : List (String × Json)}

-- ### Entries of a draft

-- What a draft becomes by one entry, wherever the text of the entry stands.
structure Draft.Takes (d : Draft) (key : String) (v : Json) (d' : Draft) : Prop where
  new : d.has key = false
  value : ∀ t, Ends t → d.readValue key (' ' :: (prettyChars 1 v ++ t)) = .ok (d', t)

inductive Draft.TakesAll : Draft → List (String × Json) → Draft → Prop where
  | nil (d : Draft) : TakesAll d [] d
  | cons {d d' d'' : Draft} {key : String} {v : Json} {entries : List (String × Json)} :
      d.Takes key v d' → TakesAll d' entries d'' → TakesAll d ((key, v) :: entries) d''

theorem readEntries_entry (hd : d.Takes key v d') (ht : Ends t) :
    readEntries (fuel + 1) d
        (newLine l ++ (quoted key.toList ++ ':' :: ' ' :: (prettyChars 1 v ++ t))) =
      match skipSpace t with
      | [] => .error .cutShort
      | '}' :: rest => .ok (d', rest)
      | ',' :: rest => readEntries fuel d' rest
      | _ => .error .malformed := by
  rw [readEntries, Json.skipSpace_newLine, Json.quoted_append, Json.skipSpace_cons rfl]
  simp only [Json.readQuoted_toList, lift, bind, Except.bind, String.ofList_toList, hd.new,
    readColon, Json.skipSpace_cons (show Json.isSpace ':' = false from rfl), hd.value t ht,
    Bool.false_eq_true, ↓reduceIte]
  rfl

theorem readEntries_pretty (h : d.TakesAll entries d') (hne : entries ≠ [])
    (hf : entries.length ≤ fuel) :
    readEntries fuel d (prettyEntries 0 entries ++ rest) = .ok (d', rest) := by
  induction h generalizing fuel with
  | nil d => exact absurd rfl hne
  | @cons d d' d'' key v es hd hes ih =>
      obtain ⟨fuel, rfl⟩ : ∃ k, fuel = k + 1 := ⟨fuel - 1, by simp at hf; omega⟩
      cases es with
      | nil =>
          cases hes
          simp only [prettyEntries, List.append_assoc, List.cons_append, List.nil_append]
          rw [readEntries_entry hd (Json.ends_newLine 0 _), Json.skipSpace_newLine,
            Json.skipSpace_cons rfl]
          rfl
      | cons e more =>
          simp only [prettyEntries, List.append_assoc, List.cons_append]
          rw [readEntries_entry hd (Json.ends_comma _), Json.skipSpace_cons rfl]
          exact ih (List.cons_ne_nil _ _) (by simpa using hf)

-- ### The identity of the run

theorem skipSpace_blank (s : List Char) : skipSpace (' ' :: s) = skipSpace s := rfl

theorem ofInt_start (n : Int) : ∃ c r, Text.ofInt n = c :: r ∧ isNumberStart c = true := by
  rw [Text.ofInt]
  split
  · exact ⟨'-', _, rfl, rfl⟩
  · cases hs : Text.ofNat n.natAbs with
    | nil => exact absurd hs Nat.toDigits_ne_nil
    | cons c r =>
        have hc : Text.isDigit c = true := Text.isDigit_of_mem_ofNat (hs ▸ List.mem_cons_self ..)
        exact ⟨c, r, rfl, by rw [isNumberStart, hc, Bool.or_true]⟩

theorem readSpider_pretty {n : Int} (hn : -Int.pow 2 63 ≤ n ∧ n < Int.pow 2 63) (ht : Ends t) :
    readSpider (' ' :: (prettyChars 1 (.ofInt n) ++ t)) = .ok (n, t) := by
  have hread : Json.readValue 1 0 (Text.ofInt n ++ t) = .ok (.num (.whole n), t) :=
    Json.readValue_number (Json.rereads_whole (Json.isExact_of_bounds hn)) ht
  obtain ⟨c, r, hs, hc⟩ := ofInt_start n
  have hspace : Json.isSpace c = false :=
    Json.isSpace_of_mem_number (n := .whole n) c (by rw [Json.number, hs]; exact .head r)
  rw [hs, List.cons_append] at hread
  rw [show prettyChars 1 (.ofInt n) = Text.ofInt n from rfl, hs, List.cons_append, readSpider,
    skipSpace_blank, Json.skipSpace_cons hspace]
  simp only [hc, ↓reduceIte, hread, lift, bind, Except.bind, hn, and_self]
  rfl

theorem readText_quoted (text : String) (t : List Char) :
    readText (' ' :: (quoted text.toList ++ t)) = .ok (text, t) := by
  rw [readText, skipSpace_blank, Json.quoted_append, Json.skipSpace_cons rfl]
  simp only [Json.readQuoted_toList, lift, bind, Except.bind, String.ofList_toList]
  rfl

theorem readMode_quoted (mode : RunMode) (t : List Char) :
    readMode (' ' :: (quoted mode.name.toList ++ t)) = .ok (mode, t) := by
  have hname : RunMode.ofName? mode.name = some mode := by cases mode <;> rfl
  rw [readMode, skipSpace_blank, Json.quoted_append, Json.skipSpace_cons rfl, ← Json.quoted_append]
  simp only [readText_quoted, bind, Except.bind, named, hname]
  rfl

namespace Draft.Takes

theorem spider {n : Int} (hn : -Int.pow 2 63 ≤ n ∧ n < Int.pow 2 63) (hd : d.spider = none) :
    d.Takes "spider_id" (.ofInt n) { d with spider := some n } where
  new := by rw [Draft.has, hd]; rfl
  value t ht := by
    rw [Draft.readValue, readSpider_pretty hn ht]
    rfl

theorem execution (text : String) (hd : d.execution = none) :
    d.Takes "execution_id" (.str text) { d with execution := some text } where
  new := by rw [Draft.has, hd]; rfl
  value t _ := by
    rw [Draft.readValue, prettyChars, readText_quoted]
    rfl

theorem mode (mode : RunMode) (hd : d.mode = none) :
    d.Takes "mode" (.str mode.name) { d with mode := some mode } where
  new := by rw [Draft.has, hd]; rfl
  value t _ := by
    rw [Draft.readValue, prettyChars, readMode_quoted]
    rfl

-- Any other entry is about the rule set.
theorem other (hv : Rereads (Json.depthLimit - 1) v)
    (hkey : key ∉ ["spider_id", "execution_id", "mode"]) :
    d.Takes key v { d with others := d.others ++ [(key, v)] } where
  new := by
    simp only [List.mem_cons, List.not_mem_nil, or_false, not_or] at hkey
    rw [Draft.has.eq_def]
    split
    · exact absurd rfl hkey.1
    · exact absurd rfl hkey.2.1
    · exact absurd rfl hkey.2.2
    · rfl
  value t ht := by
    simp only [List.mem_cons, List.not_mem_nil, or_false, not_or] at hkey
    rw [Draft.readValue.eq_def]
    split
    · exact absurd rfl hkey.1
    · exact absurd rfl hkey.2.1
    · exact absurd rfl hkey.2.2
    · rw [Json.readValue_skip (skipSpace_blank _), hv.isRead 1 _ t ?_ ht]
      · rfl
      · simp only [Json.fuelFor, List.length_cons, List.length_append]
        omega

end Draft.Takes

theorem Draft.takesAll_others (h : ∀ e ∈ entries, Rereads (Json.depthLimit - 1) e.2 ∧
    e.1 ∉ ["spider_id", "execution_id", "mode"]) (d : Draft) :
    d.TakesAll entries { d with others := d.others ++ entries } := by
  induction entries generalizing d with
  | nil =>
      rw [List.append_nil]
      exact .nil d
  | cons e es ih =>
      obtain ⟨hv, hkey⟩ := h e (List.mem_cons_self ..)
      have hrest := ih (fun f hf => h f (List.mem_cons_of_mem _ hf))
        { d with others := d.others ++ [e] }
      rw [List.append_assoc] at hrest
      exact .cons (.other hv hkey) hrest

-- ### Rule sets

-- Every item of a list that is read back by itself is read back in its place.
theorem mapM_map {α β : Type} {f : α → β} {g : β → Option α} (h : ∀ a, g (f a) = some a)
    (items : List α) : (items.map f).mapM g = some items := by
  induction items with
  | nil => rfl
  | cons a items ih => rw [List.map_cons, List.mapM_cons, h, ih]; rfl

theorem rule?_ruleJson (r : Rule) : rule? (ruleJson r) = some r := by
  obtain ⟨field, ⟨dialect, expression⟩, taking⟩ := r
  cases dialect <;> cases taking <;> rfl

theorem rules?_map (rules : List Rule) : rules? (.arr (rules.map ruleJson)) = some rules :=
  mapM_map rule?_ruleJson rules

-- Headers in the order of their names, each once.
theorem headers?_map {headers : List (String × String)}
    (h : headers.Pairwise fun a b => a.1 < b.1) :
    headers? (.obj (headers.map fun (k, v) => (k, .str v))) = some headers := by
  have hnodup : (headers.map (·.1)).Nodup :=
    List.pairwise_map.mpr (h.imp fun hab heq => by
      rw [heq] at hab
      exact absurd hab (String.lt_irrefl _))
  have hsorted : headers.Pairwise fun a b => decide (a.1 ≤ b.1) = true :=
    h.imp fun hab => decide_eq_true (String.not_lt.mp fun hba => String.lt_asymm hab hba)
  have hback : (headers.map fun (k, v) => (k, Json.str v)).mapM header? = some headers :=
    mapM_map (g := header?) (f := fun h => (h.1, Json.str h.2)) (fun _ => rfl) headers
  rw [headers?, hback, Option.map_some, Entries.ofList_of_nodup hnodup,
    List.mergeSort_of_pairwise hsorted]

theorem count?_ofNat {n : Nat} (hn : n < Nat.pow 2 32) : count? (.ofNat n) = some n := by
  have hcount : Number.toNat? (.whole n) = some n := by
    rw [Number.toNat?, if_pos (Int.natCast_nonneg n), Int.toNat_natCast]
  simp only [count?, Json.ofNat, hcount, if_pos hn]

theorem ruleSet?_ruleSetEntries {s : RuleSet} (headers : s.headers.Pairwise fun a b => a.1 < b.1)
    (retries : s.retries < Nat.pow 2 32) : ruleSet? (ruleSetEntries s) = some s := by
  have hurl : only? (ruleSetEntries s) "url" = some (.str s.url) := rfl
  have hheaders : only? (ruleSetEntries s) "headers" =
      some (.obj (s.headers.map fun (k, v) => (k, .str v))) := rfl
  have hdelay : only? (ruleSetEntries s) "delay_secs" = some (.num (.double s.delay)) := rfl
  have htimeout : only? (ruleSetEntries s) "timeout_secs" = some (.num (.double s.timeout)) := rfl
  have hretries : only? (ruleSetEntries s) "retries" = some (.ofNat s.retries) := rfl
  have hrules : only? (ruleSetEntries s) "rules" = some (.arr (s.rules.map ruleJson)) := rfl
  have hpresent : isAbsent (ruleSetEntries s) "headers" = false := rfl
  simp only [ruleSet?, hurl, hheaders, hdelay, htimeout, hretries, hrules, hpresent,
    headers?_map headers, count?_ofNat retries, rules?_map, Option.bind_eq_bind, Option.bind_some,
    Bool.false_eq_true, ↓reduceIte]
  rfl

-- ### Documents

-- What the types of its parts say of a program: its numbers have their widths, and its headers are
-- those of a sorted map.
structure Program.Holds (p : Program) : Prop where
  spider : -Int.pow 2 63 ≤ p.spider ∧ p.spider < Int.pow 2 63
  headers : p.ruleSet.headers.Pairwise fun a b => a.1 < b.1
  retries : p.ruleSet.retries < Nat.pow 2 32

theorem rereads_rule (r : Rule) (depth : Nat) : Rereads (depth + 2) (ruleJson r) := by
  obtain ⟨field, ⟨dialect, expression⟩, taking⟩ := r
  have hselector : Rereads (depth + 1) (.obj [("kind", dialectJson dialect),
      ("expression", .str expression)]) := by
    refine .obj (List.forall_mem_cons.mpr ⟨?_, List.forall_mem_singleton.mpr (.str expression)⟩)
    cases dialect <;> exact .str _
  have htaking : Rereads (depth + 1) (takingJson taking) := by
    rcases taking with _ | name | _
    · exact .str "text"
    · exact .obj (List.forall_mem_singleton.mpr (.str name))
    · exact .str "html"
  exact .obj (List.forall_mem_cons.mpr ⟨.str field, List.forall_mem_cons.mpr
    ⟨hselector, List.forall_mem_singleton.mpr htaking⟩⟩)

theorem Program.Holds.rereads {p : Program} (h : p.Holds)
    (delay : (Number.double p.ruleSet.delay).Rereads)
    (timeout : (Number.double p.ruleSet.timeout).Rereads) :
    ∀ e ∈ ruleSetEntries p.ruleSet, Rereads (Json.depthLimit - 1) e.2 ∧
      e.1 ∉ ["spider_id", "execution_id", "mode"] := by
  have hretries : Number.isExact p.ruleSet.retries = true := by
    have hlt := h.retries
    simp only [Number.isExact, Bool.and_eq_true, decide_eq_true_eq,
      show Int.pow 2 63 = 9223372036854775808 from rfl,
      show Int.pow 2 64 = 18446744073709551616 from rfl, show Nat.pow 2 32 = 4294967296 from rfl]
      at hlt ⊢
    omega
  intro e he
  simp only [ruleSetEntries, List.mem_cons, List.not_mem_nil, or_false] at he
  rcases he with rfl | rfl | rfl | rfl | rfl | rfl
  · exact ⟨.str _, by simp⟩
  · refine ⟨.obj fun header hm => ?_, by simp⟩
    obtain ⟨kv, -, rfl⟩ := List.mem_map.mp hm
    exact .str _
  · exact ⟨.num delay, by simp⟩
  · exact ⟨.num timeout, by simp⟩
  · exact ⟨.num (Json.rereads_whole hretries), by simp⟩
  · refine ⟨.arr fun rule hm => ?_, by simp⟩
    obtain ⟨r, -, rfl⟩ := List.mem_map.mp hm
    exact rereads_rule r _

theorem length_le_prettyEntries (level : Nat) (entries : List (String × Json)) :
    entries.length ≤ (prettyEntries level entries).length := by
  induction entries with
  | nil => exact Nat.zero_le _
  | cons e es ih =>
      obtain ⟨key, v⟩ := e
      cases es with
      | nil =>
          simp only [prettyEntries, List.length_append, List.length_cons, List.length_nil]
          omega
      | cons e es =>
          simp only [prettyEntries, List.length_append, List.length_cons] at ih ⊢
          omega

theorem readDraft_pretty (h : Draft.empty.TakesAll entries d) (hne : entries ≠ []) :
    readDraft (prettyChars 0 (.obj entries)) = .ok (d, []) := by
  obtain ⟨e, es, rfl⟩ := List.exists_cons_of_ne_nil hne
  obtain ⟨key, v⟩ := e
  have hentries : readEntries (prettyChars 0 (.obj ((key, v) :: es))).length Draft.empty
      (prettyEntries 0 ((key, v) :: es)) = .ok (d, []) := by
    rw [← List.append_nil (prettyEntries 0 ((key, v) :: es))]
    refine readEntries_pretty h (List.cons_ne_nil _ _) ?_
    refine Nat.le_trans (length_le_prettyEntries 0 _) ?_
    simp only [prettyChars, List.length_cons]
    omega
  -- the first key stands right behind the brace
  have hopen : ∃ r, skipSpace (prettyEntries 0 ((key, v) :: es)) = '"' :: r := by
    cases es with
    | nil =>
        simp only [prettyEntries, List.append_assoc, Json.skipSpace_newLine, Json.quoted_append]
        exact ⟨_, rfl⟩
    | cons e es =>
        simp only [prettyEntries, List.append_assoc, Json.skipSpace_newLine, Json.quoted_append]
        exact ⟨_, rfl⟩
  obtain ⟨r, hr⟩ := hopen
  rw [readDraft, prettyChars, Json.skipSpace_cons rfl]
  simp only [hr]
  exact hentries

-- A document is read as the program that was printed.
theorem Program.read_text {p : Program} (h : p.Holds)
    (delay : (Number.double p.ruleSet.delay).Rereads)
    (timeout : (Number.double p.ruleSet.timeout).Rereads) : Program.read p.text = .ok p := by
  have htakes : Draft.empty.TakesAll ([("spider_id", .ofInt p.spider),
      ("execution_id", .str p.execution), ("mode", .str p.mode.name)] ++ ruleSetEntries p.ruleSet)
      ⟨some p.spider, some p.execution, some p.mode, ruleSetEntries p.ruleSet⟩ :=
    .cons (.spider h.spider rfl) (.cons (.execution p.execution rfl)
      (.cons (.mode p.mode rfl) (Draft.takesAll_others (h.rereads delay timeout) _)))
  have hdraft : readDraft p.text.toList =
      .ok (⟨some p.spider, some p.execution, some p.mode, ruleSetEntries p.ruleSet⟩, []) := by
    rw [Program.text, Json.pretty, String.toList_ofList]
    exact readDraft_pretty htakes (List.cons_ne_nil _ _)
  have hprogram : Draft.program? ⟨some p.spider, some p.execution, some p.mode,
      ruleSetEntries p.ruleSet⟩ = some p := by
    simp only [Draft.program?, ruleSet?_ruleSetEntries h.headers h.retries, Option.bind_eq_bind,
      Option.bind_some]
    rfl
  simp only [Program.read, hdraft, bind, Except.bind, hprogram]
  rfl

theorem load_of_readText {p : Program} {text path : String} {disk : Disk}
    (hp : Program.read text = .ok p) (hd : disk.readText path = .ok text) :
    load disk path = .ok p := by
  simp only [load, hd, hp]

end Worker

-- ### Programs of spiders

-- What its types say of a spider that is to be run: its number has its width, and its headers are
-- the entries of an object, where no key stands twice.
structure Definition.Holds (d : Definition) : Prop where
  id : -Int.pow 2 63 ≤ d.id ∧ d.id < Int.pow 2 63
  headers : ∀ entries, RuleSet.part d.config "headers" = .obj entries →
    (entries.map (·.1)).Nodup

theorem Definition.Holds.program {d : Definition} {s : RuleSet} (h : d.Holds)
    (hs : RuleSet.ofConfig d.config = .ok s) (execution : String) (mode : RunMode) :
    Worker.Program.Holds ⟨d.id, execution, mode, s⟩ := by
  obtain ⟨hheaders, hretries⟩ := RuleSet.ofConfig_eq_ok hs
  exact ⟨h.id, RuleSet.readHeaders_pairwise hheaders h.headers, RuleSet.readRetries_lt hretries⟩

theorem Definition.synthesize_rules {d : Definition} {s : RuleSet} (hd : d.kind = .rules)
    (hs : RuleSet.ofConfig d.config = .ok s) (l : Launchers) (execution : String) (mode : RunMode)
    (override : Option String) : d.synthesize l execution mode override =
      .ok ⟨Worker.Program.text ⟨d.id, execution, mode, s⟩, "json", .worker l.worker⟩ := by
  simp only [synthesize, hd, hs]
  rfl

-- Documents read back: those of all programs, and so those of all spiders whose configuration is
-- accepted, which their worker loads from wherever they are stored. All that is asked of a double
-- is that its own text reads back.
theorem Worker.documents_read_back :
    (∀ p : Program, p.Holds → (Number.double p.ruleSet.delay).Rereads →
      (Number.double p.ruleSet.timeout).Rereads → Program.read p.text = .ok p) ∧
    ∀ (d : Definition) (l : Launchers) (execution : String) (mode : RunMode)
      (override : Option String) (s : RuleSet), d.kind = .rules →
      RuleSet.ofConfig d.config = .ok s → d.Holds → (Number.double s.delay).Rereads →
      (Number.double s.timeout).Rereads →
      ∃ program, d.synthesize l execution mode override = .ok program ∧
        Program.read program.source = .ok ⟨d.id, execution, mode, s⟩ ∧
        ∀ (disk : Disk) (path : String), disk.readText path = .ok program.source →
          load disk path = .ok ⟨d.id, execution, mode, s⟩ := by
  refine ⟨fun p => Program.read_text, ?_⟩
  intro d l execution mode override s hd hs hholds hdelay htimeout
  have hread : Program.read (Program.text ⟨d.id, execution, mode, s⟩) =
      .ok ⟨d.id, execution, mode, s⟩ :=
    Program.read_text (hholds.program hs execution mode) hdelay htimeout
  exact ⟨_, Definition.synthesize_rules hd hs l execution mode override, hread,
    fun disk path => load_of_readText hread⟩

-- A spider that is read from the store holds to its types.
theorem Spider.definition_holds {s : Spider} (h : -Int.pow 2 63 ≤ s.id ∧ s.id < Int.pow 2 63) :
    s.definition.Holds := ⟨h, fun _ => Definition.nodup_of_configOf⟩

-- A program with a quote, a backslash and control characters in its texts.
def Worker.Program.quoting : Program :=
  ⟨-4, "a\"b\\c\nd\x01é", .direct, ⟨"http://[::1]/", [("A", "x\t"), ("B", "")], 1.0, 30.0, 3,
    [⟨"link", ⟨.xpath, "//a[@id=\"b\"]"⟩, .attribute "href"⟩, ⟨"", ⟨.css, "p"⟩, .html⟩]⟩⟩

-- A spider whose headers are out of order, one of them no text.
def Spider.ruled : Spider :=
  ⟨4, "one", none, "", .inactive, "\x7b\"type\":\"rules\",\"url\":\"http://[::1]/\"," ++
    "\"delay\":0.5,\"headers\":\x7b\"B\":1,\"A\":\"x\"\x7d," ++
    "\"rules\":[\x7b\"field\":\"f\",\"selector\":\"p\"\x7d]\x7d",
    none, 0, 0, 0⟩

theorem Worker.documents_read_back_quoting :
    Worker.Program.quoting.Holds ∧ Spider.ruled.definition.kind = .rules ∧
    Program.read Worker.Program.quoting.text = .ok Worker.Program.quoting ∧
    ∃ s program, RuleSet.ofConfig Spider.ruled.definition.config = .ok s ∧
      Spider.ruled.definition.synthesize ⟨"python3", "worker"⟩ "e" .files none = .ok program ∧
      Program.read program.source = .ok ⟨4, "e", .files, s⟩ := by
  have hone : (Number.double 1.0).Rereads := Number.rereads_of_check (by decide +kernel)
  have hthirty : (Number.double 30.0).Rereads := Number.rereads_of_check (by decide +kernel)
  have hquoting : Worker.Program.quoting.Holds :=
    ⟨by decide, by decide +kernel, by decide⟩
  have hkind : Spider.ruled.definition.kind = .rules := by decide +kernel
  have hruled : Spider.ruled.definition.Holds := Spider.definition_holds (by decide)
  have hset : (match RuleSet.ofConfig Spider.ruled.definition.config with
      | .ok s => Number.rereads s.delay && Number.rereads s.timeout
      | .error _ => false) = true := by
    decide +kernel
  split at hset
  · rename_i s hs
    rw [Bool.and_eq_true] at hset
    obtain ⟨hdelay, htimeout⟩ := hset
    obtain ⟨program, hprogram, hread, -⟩ := documents_read_back.2 Spider.ruled.definition
      ⟨"python3", "worker"⟩ "e" .files none s hkind hs hruled (Number.rereads_of_check hdelay)
      (Number.rereads_of_check htimeout)
    exact ⟨hquoting, hkind, documents_read_back.1 Worker.Program.quoting hquoting hone hthirty,
      s, program, hs, hprogram, hread⟩
  · cases hset

end Spiderworks
