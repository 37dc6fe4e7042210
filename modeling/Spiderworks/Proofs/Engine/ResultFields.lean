import Spiderworks.Proofs.Engine.ReportLine
import Spiderworks.Proofs.Json.Entries
import Spiderworks.Proofs.Rules.Config

namespace Spiderworks

namespace DirectResult

variable {r : DirectResult} {spider : Int} {name execution key : String}
  {object : List (String × Json)}

-- The names of the fields, in the order in which they are written.
def fieldNames : List String :=
  ["success", "spider_id", "spider_name", "execution_id", "data", "count", "url", "message",
    "error", "execution_time", "timestamp", "failure", "stdout", "stderr"]

def fields (r : DirectResult) : List (String × Json) := entries { r with extra := [] }

theorem entries_eq (r : DirectResult) : r.entries = r.fields ++ r.extra := by
  simp only [fields, entries, List.append_nil]

-- What is taken out of an object is what there is a field for.
theorem mem_fieldNames_iff : key ∈ fieldNames ↔ key ∈ readKeys ++ ownKeys := by
  have hperm : fieldNames.Perm (readKeys ++ ownKeys) := by decide
  exact hperm.mem_iff

-- ### Names

theorem keys_optional_sublist (key : String) (v : Option Json) :
    ((optional key v).map (·.1)).Sublist [key] := by
  cases v with
  | none => exact List.nil_sublist _
  | some v => exact .refl _

-- A field that has no value is left out.
theorem keys_fields_sublist (r : DirectResult) : (r.fields.map (·.1)).Sublist fieldNames := by
  have hnames : fieldNames =
      ["success", "spider_id", "spider_name", "execution_id", "data", "count", "url"] ++
        ["message"] ++ ["error"] ++ ["execution_time"] ++ ["timestamp"] ++ ["failure"] ++
        ["stdout"] ++ ["stderr"] := rfl
  rw [hnames]
  simp only [fields, entries, List.map_append, List.append_nil, List.map_cons, List.map_nil]
  iterate 4 refine List.Sublist.append ?_ (keys_optional_sublist _ _)
  refine List.Sublist.append ?_ (.refl _)
  iterate 2 refine List.Sublist.append ?_ (keys_optional_sublist _ _)
  exact .refl _

-- What is carried along has names of its own.
structure Apart (r : DirectResult) : Prop where
  distinct : (r.extra.map (·.1)).Nodup
  others : ∀ e ∈ r.extra, e.1 ∉ fieldNames

theorem extra_perm (h : (object.map (·.1)).Nodup) (spider : Int) (name execution : String) :
    (ofObject spider name execution object).extra.Perm
      (object.filter fun e => e.1 ∉ fieldNames) := by
  have hextra : (ofObject spider name execution object).extra =
      (readKeys ++ ownKeys).foldl Entries.takeOut object := by
    rw [ofObject]
  have hnames : object.filter (fun e => e.1 ∉ fieldNames) =
      object.filter (fun e => e.1 ∉ readKeys ++ ownKeys) :=
    List.filter_congr fun e _ => by rw [decide_eq_decide, mem_fieldNames_iff]
  rw [hextra, hnames]
  exact Entries.foldl_takeOut_perm h (readKeys ++ ownKeys)

theorem apart_ofObject (h : (object.map (·.1)).Nodup) (spider : Int) (name execution : String) :
    (ofObject spider name execution object).Apart := by
  have hperm := extra_perm h spider name execution
  constructor
  · rw [(hperm.map (·.1)).nodup_iff]
    exact h.sublist (List.filter_sublist.map _)
  · intro e he
    simpa using (List.mem_filter.mp (hperm.subset he)).2

namespace Apart

theorem nodup_entries (h : r.Apart) : (r.entries.map (·.1)).Nodup := by
  have hnames : fieldNames.Nodup := by decide
  rw [entries_eq, List.map_append]
  refine List.nodup_append.mpr ⟨hnames.sublist (keys_fields_sublist r), h.distinct, ?_⟩
  rintro a ha b hb rfl
  obtain ⟨e, he, rfl⟩ := List.mem_map.mp hb
  exact h.others e he ((keys_fields_sublist r).subset ha)

theorem get?_entries (h : r.Apart) (hkey : key ∈ fieldNames) :
    Entries.get? r.entries key = Entries.get? r.fields key := by
  have hnone : Entries.get? r.extra key = none := by
    refine Entries.get?_eq_none fun hmem => ?_
    obtain ⟨e, he, rfl⟩ := List.mem_map.mp hmem
    exact h.others e he hkey
  rw [entries_eq, Entries.get?_append, hnone, Option.or_none]

theorem filter_entries (h : r.Apart) :
    r.entries.filter (fun e => e.1 ∉ fieldNames) = r.extra := by
  have hfields : r.fields.filter (fun e => e.1 ∉ fieldNames) = [] := by
    refine List.filter_eq_nil_iff.mpr fun e he => ?_
    simpa using (keys_fields_sublist r).subset (List.mem_map_of_mem he)
  have hextra : r.extra.filter (fun e => e.1 ∉ fieldNames) = r.extra :=
    List.filter_eq_self.mpr fun e he => by simpa using h.others e he
  rw [entries_eq, List.filter_append, hfields, hextra, List.nil_append]

end Apart

-- ### Values

theorem get?_optional (key other : String) (v : Option Json) :
    Entries.get? (optional key v) other = if key = other then v else none := by
  cases v with
  | none => simp [optional, Entries.get?]
  | some v => simp [optional, Entries.get?]

-- What is read off an object, and what is the engine's own.
theorem get?_fields_read (r : DirectResult) :
    Entries.get? r.fields "success" = some (.bool r.success) ∧
    Entries.get? r.fields "data" = some (.arr r.data) ∧
    Entries.get? r.fields "count" = some (.ofNat r.count) ∧
    Entries.get? r.fields "url" = some (.str r.url) ∧
    Entries.get? r.fields "message" = r.note.map .str ∧
    Entries.get? r.fields "error" = r.error.map .str ∧
    Entries.get? r.fields "timestamp" = r.timestamp.map fun t => .num (.double t) := by
  simp only [fields, entries, List.append_nil, Entries.get?_append, get?_optional]
  simp [Entries.get?]

theorem get?_fields_own (r : DirectResult) :
    Entries.get? r.fields "spider_id" = some (.ofInt r.spider) ∧
    Entries.get? r.fields "spider_name" = some (.str r.name) ∧
    Entries.get? r.fields "execution_id" = some (.str r.execution) ∧
    Entries.get? r.fields "execution_time" = some (.num (.double r.seconds)) ∧
    Entries.get? r.fields "failure" = r.failure.map failureJson ∧
    Entries.get? r.fields "stdout" = r.output.map .str ∧
    Entries.get? r.fields "stderr" = r.errors.map .str := by
  simp only [fields, entries, List.append_nil, Entries.get?_append, get?_optional]
  simp [Entries.get?]

theorem countOf_ofNat (n : Nat) : countOf (some (.ofNat n)) = some n := by
  simp [countOf, Json.ofNat, Number.toNat?]

theorem map_textOf (text : Option String) : (text.map Json.str).map textOf = text := by
  cases text <;> rfl

theorem timestampOf_double (t : Option Float) :
    timestampOf (t.map fun t => .num (.double t)) = t := by
  cases t <;> rfl

-- Everything but the order of what is carried along comes back; what is the engine's own does not
-- come from the object.
theorem Apart.ofObject_entries (h : r.Apart) (spider : Int) (name execution : String) :
    ∃ extra, extra.Perm r.extra ∧ ofObject spider name execution r.entries =
      { blank spider name execution with
        success := r.success
        data := r.data
        count := r.count
        url := r.url
        note := r.note
        error := r.error
        timestamp := r.timestamp
        extra := extra } := by
  have hperm := extra_perm h.nodup_entries spider name execution
  rw [h.filter_entries] at hperm
  refine ⟨_, hperm, ?_⟩
  obtain ⟨hsuccess, hdata, hcount, hurl, hnote, herror, htimestamp⟩ := get?_fields_read r
  rw [← h.get?_entries (by decide)] at hsuccess hdata hcount hurl hnote herror htimestamp
  simp only [ofObject, hsuccess, hdata, hcount, hurl, hnote, herror, htimestamp, dataOf,
    countOf_ofNat, map_textOf, timestampOf_double, Option.getD_some, Option.map_some, textOf]

theorem Apart.get?_seconds (h : r.Apart) (seconds : Float) :
    Entries.get? (entries { r with seconds := seconds }) "execution_time" =
      some (.num (.double seconds)) := by
  have hlater : Apart { r with seconds := seconds } := ⟨h.distinct, h.others⟩
  rw [hlater.get?_entries (by decide)]
  exact (get?_fields_own { r with seconds := seconds }).2.2.2.1

-- ### The whole

-- What a result keeps of the object that a spider has printed, and what of it is the engine's own:
-- the time is set when the call has ended.
structure Carries (spider : Int) (name execution : String) (object : List (String × Json))
    (r : DirectResult) : Prop where
  extra : r.extra.Perm (object.filter fun e => e.1 ∉ fieldNames)
  distinct : (r.entries.map (·.1)).Nodup
  ownSpider : Entries.get? r.entries "spider_id" = some (.ofInt spider)
  ownName : Entries.get? r.entries "spider_name" = some (.str name)
  ownExecution : Entries.get? r.entries "execution_id" = some (.str execution)
  ownTime : Entries.get? r.entries "execution_time" = some (.num (.double 0.0))
  laterTime : ∀ seconds, Entries.get? (entries { r with seconds := seconds }) "execution_time" =
    some (.num (.double seconds))
  noFailure : Entries.get? r.entries "failure" = none
  noOutput : Entries.get? r.entries "stdout" = none
  noErrors : Entries.get? r.entries "stderr" = none
  again : ∃ extra, extra.Perm r.extra ∧
    ofObject spider name execution r.entries = { r with extra := extra }

theorem carries_ofObject (h : (object.map (·.1)).Nodup) (spider : Int) (name execution : String) :
    (ofObject spider name execution object).Carries spider name execution object := by
  have hapart := apart_ofObject h spider name execution
  obtain ⟨hspider, hname, hexecution, hseconds, hfailure, houtput, herrors⟩ :=
    get?_fields_own (ofObject spider name execution object)
  rw [← hapart.get?_entries (by decide)] at hspider hname hexecution hseconds
  rw [← hapart.get?_entries (by decide)] at hfailure houtput herrors
  refine ⟨extra_perm h spider name execution, hapart.nodup_entries, ?_, ?_, ?_, ?_,
    hapart.get?_seconds, ?_, ?_, ?_, hapart.ofObject_entries spider name execution⟩
  · rw [hspider, ofObject, blank]
  · rw [hname, ofObject, blank]
  · rw [hexecution, ofObject, blank]
  · rw [hseconds, ofObject, blank]
  · rw [hfailure, ofObject, blank]
    rfl
  · rw [houtput, ofObject, blank]
    rfl
  · rw [herrors, ofObject, blank]
    rfl

-- In an object that is found in an output every key stands once.
theorem nodup_of_reportedObject? {output : String} (h : reportedObject? output = some object) :
    (object.map (·.1)).Nodup := by
  obtain ⟨-, line, -, -, hline, -⟩ := reportedObject?_eq_some_iff.mp h
  obtain ⟨raw, hraw⟩ := Json.exists_settled_of_read? hline
  exact Json.nodup_of_settled hraw

-- What a spider has printed is carried along but for the names of the fields, no name comes twice,
-- the engine's fields are its own whatever was printed for them, and the object of a result is read
-- as that result.
theorem carries_report (output : String) (object : List (String × Json))
    (h : reportedObject? output = some object) (spider : Int) (name execution : String) :
    (ofObject spider name execution object).Carries spider name execution object :=
  carries_ofObject (nodup_of_reportedObject? h) spider name execution

-- An object with names of the engine's and of its own, no list as data, and a number as its url.
def boasting : List (String × Json) :=
  [("rows", .ofNat 3), ("spider_id", .ofNat 9), ("stdout", .str "x"), ("data", .obj []),
    ("url", .ofNat 5), ("pages", .arr [.null])]

theorem carries_report_boasting :
    reportedObject? ("on it" ++ "\n" ++ Json.compact (.obj boasting) ++ "\n" ++ "done") =
      some boasting ∧
    (ofObject 1 "demo" "e" boasting).Carries 1 "demo" "e" boasting := by
  have hprintable : Json.Printable Json.depthLimit (.obj boasting) := by
    refine .obj (by decide) ?_
    simp only [boasting, List.forall_mem_cons, List.not_mem_nil, false_imp_iff, implies_true,
      and_true]
    exact ⟨.whole (by decide), .whole (by decide), .str _, .obj .nil (List.forall_mem_nil _),
      .whole (by decide), .arr (List.forall_mem_singleton.mpr .null)⟩
  have hnothing : ReportsNothing "done" := by
    refine reportedObject?_eq_none_iff.mp (Option.isNone_iff_eq_none.mp ?_)
    decide +kernel
  have hreport := reportedObject?_eq_some_iff.mpr
    (lastObject_of_line (p := "on it") hprintable hnothing)
  exact ⟨hreport, carries_report _ boasting hreport 1 "demo" "e"⟩

end DirectResult

end Spiderworks
