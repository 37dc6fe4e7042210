import Mathlib.Data.List.Perm.Basic
import Spiderworks.Proofs.Engine.Lawful

namespace Spiderworks

open History

inductive Fate where
  | underWay
  | succeeded
  | failed
  | stopped
  deriving DecidableEq, Repr

def RunEnd.fate : RunEnd → Fate
  | .exited o => if o.code = 0 then .succeeded else .failed
  | .failed _ => .failed
  | .stopped => .stopped

def Event.fate? : Event → Option Fate
  | .settled _ _ _ e => some e.fate
  | .stopped _ _ _ => some .stopped
  | _ => none

-- What became of an execution: its final entry says so.
def History.fate? (log : List Event) (x : String) : Option Fate :=
  log.findSome? fun event => if event.execution = x then event.fate? else none

def History.fate (log : List Event) (x : String) : Fate := (fate? log x).getD .underWay

-- A call that is not let in, or not yet, has none.
def DirectCall.fate? (c : DirectCall) : Option Fate :=
  match c.stage with
  | .admitting | .done (.error _) => none
  | .done (.ok r) => some (if r.success then .succeeded else .failed)
  | _ => some .underWay

def Ledger.ofRuns (runs : List Run) (log : List Event) : List (Int × Option Fate) :=
  runs.map fun r => (r.spider.id, some (fate log r.execution))

def Ledger.ofCalls (calls : List DirectCall) : List (Int × Option Fate) :=
  calls.map fun c => (c.spider, c.fate?)

def Engine.ledger (e : Engine) (log : List Event) : List (Int × Option Fate) :=
  Ledger.ofRuns e.runs log ++ Ledger.ofCalls e.calls

-- How many entries of a spider there are of some kind.
def Ledger.number (l : List (Int × Option Fate)) (a : Int) (p : Option Fate → Bool) : Nat :=
  l.countP fun entry => entry.1 == a && p entry.2

variable {log : List Event} {event : Event} {x : String} {a : Int}

-- ### One more event

theorem Event.fate?_eq_none (h : event.isFinal = false) : event.fate? = none := by
  cases event <;> first | rfl | cases h

theorem History.fate?_eq_none (h : ¬Finalised log x) : fate? log x = none := by
  rw [fate?, List.findSome?_eq_none_iff]
  intro event hm
  split
  · rename_i hx
    exact Event.fate?_eq_none (Bool.eq_false_iff.mpr fun hf => h ⟨event, hm, hf, hx⟩)
  · rfl

theorem History.fate_concat_other (h : event.isFinal = false ∨ event.execution ≠ x) :
    fate (log ++ [event]) x = fate log x := by
  have hnone : (if event.execution = x then event.fate? else none) = none := by
    rcases h with h | h
    · rw [Event.fate?_eq_none h, ite_self]
    · rw [if_neg h]
  rw [fate, fate, fate?, List.findSome?_append, List.findSome?_singleton, hnone, Option.or_none]
  rfl

theorem History.fate_concat_final {f : Fate} (h : ¬Finalised log event.execution)
    (hf : event.fate? = some f) : fate (log ++ [event]) event.execution = f := by
  have hnone := fate?_eq_none h
  rw [fate?] at hnone
  rw [fate, fate?, List.findSome?_append, hnone, List.findSome?_singleton, if_pos rfl, hf]
  rfl

-- ### Numbers

namespace Ledger

variable {l l' rest : List (Int × Option Fate)} {b : Int} {v w : Option Fate}

-- One entry of `b` turns from `v` into `w`.
def Turns (b : Int) (v w : Option Fate) (l l' : List (Int × Option Fate)) : Prop :=
  ∃ rest, l.Perm ((b, v) :: rest) ∧ l'.Perm ((b, w) :: rest)

theorem Turns.number (h : Turns b v w l l') (a : Int) (p : Option Fate → Bool) :
    number l' a p + (if b == a && p v then 1 else 0) =
      number l a p + if b == a && p w then 1 else 0 := by
  obtain ⟨rest, hl, hl'⟩ := h
  rw [Ledger.number, Ledger.number, hl.countP_eq, hl'.countP_eq, List.countP_cons,
    List.countP_cons]
  dsimp only
  omega

-- One more entry.
theorem number_insert (l m : List (Int × Option Fate)) (b : Int) (w : Option Fate) (a : Int)
    (p : Option Fate → Bool) : number (l ++ [(b, w)] ++ m) a p =
      number (l ++ m) a p + if b == a && p w then 1 else 0 := by
  simp only [Ledger.number, List.countP_append, List.countP_singleton]
  omega

theorem turns_set {n : Nat} (hn : l[n]? = some (b, v)) : Turns b v w l (l.set n (b, w)) := by
  obtain ⟨hlt, hget⟩ := List.getElem?_eq_some_iff.mp hn
  refine ⟨l.eraseIdx n, ?_, List.set_perm_cons_eraseIdx hlt _⟩
  have hperm := List.getElem_cons_eraseIdx_perm hlt
  rw [hget] at hperm
  exact hperm.symm

theorem Turns.append_right (h : Turns b v w l l') (m : List (Int × Option Fate)) :
    Turns b v w (l ++ m) (l' ++ m) := by
  obtain ⟨rest, hl, hl'⟩ := h
  exact ⟨rest ++ m, hl.append_right m, hl'.append_right m⟩

theorem Turns.append_left (h : Turns b v w l l') (m : List (Int × Option Fate)) :
    Turns b v w (m ++ l) (m ++ l') := by
  obtain ⟨rest, hl, hl'⟩ := h
  exact ⟨m ++ rest, (hl.append_left m).trans List.perm_middle,
    (hl'.append_left m).trans List.perm_middle⟩

-- ### Runs and events

variable {runs : List Run} {j : Nat} {r r' : Run}

-- Events that finalise none of the runs.
theorem ofRuns_append {o : Option Event} (h : ∀ event ∈ o, ∀ r ∈ runs,
    event.isFinal = false ∨ event.execution ≠ r.execution) :
    ofRuns runs (log ++ o.toList) = ofRuns runs log := by
  cases o with
  | none => rw [Option.toList_none, List.append_nil]
  | some event =>
      refine List.map_congr_left fun r hr => ?_
      rw [Option.toList_some, fate_concat_other (h event rfl r hr)]

-- A run is finalised: its own entry turns, and nobody else's.
theorem turns_final {f : Fate} (distinct : (runs.map (·.execution)).Nodup)
    (hj : runs[j]? = some r) (hx : event.execution = r.execution)
    (hnot : ¬Finalised log event.execution) (hf : event.fate? = some f) :
    Turns r.spider.id (some .underWay) (some f) (ofRuns runs log)
      (ofRuns runs (log ++ [event])) := by
  have hold : (ofRuns runs log)[j]? = some (r.spider.id, some .underWay) := by
    rw [ofRuns, List.getElem?_map, hj, Option.map_some, fate, ← hx, fate?_eq_none hnot]
    rfl
  have hnew : ofRuns runs (log ++ [event]) = (ofRuns runs log).set j (r.spider.id, some f) := by
    refine List.ext_getElem? fun n => ?_
    by_cases hn : n = j
    · subst hn
      have hlt : n < (ofRuns runs log).length := (List.getElem?_eq_some_iff.mp hold).1
      rw [List.getElem?_set_self hlt, ofRuns, List.getElem?_map, hj, Option.map_some, ← hx,
        fate_concat_final hnot hf]
    · rw [List.getElem?_set_ne (Ne.symm hn), ofRuns, ofRuns, List.getElem?_map, List.getElem?_map]
      cases hr' : runs[n]? with
      | none => rfl
      | some r' =>
          have hne : event.execution ≠ r'.execution := by
            intro hx'
            obtain ⟨hlt, -⟩ := List.getElem?_eq_some_iff.mp hr'
            have hget : (runs.map (·.execution))[n]? = (runs.map (·.execution))[j]? := by
              simp [hj, hr', ← hx, ← hx']
            exact hn ((List.getElem?_inj (by simpa using hlt) distinct).mp hget)
          rw [Option.map_some, Option.map_some, fate_concat_other (.inr hne)]
  rw [hnew]
  exact turns_set hold

theorem ofRuns_concat (runs : List Run) (r : Run) (log : List Event) : ofRuns (runs ++ [r]) log =
    ofRuns runs log ++ [(r.spider.id, some (fate log r.execution))] := List.map_append

-- A step of a run leaves its entry.
theorem ofRuns_set (hj : runs[j]? = some r) (hs : r'.spider = r.spider)
    (hx : r'.execution = r.execution) : ofRuns (runs.set j r') log = ofRuns runs log := by
  have hget := (List.getElem?_eq_some_iff.mp hj)
  rw [ofRuns, List.map_set, hs, hx]
  obtain ⟨hlt, rfl⟩ := hget
  have hlen : j < (ofRuns runs log).length := by simpa [ofRuns] using hlt
  have hcell : (ofRuns runs log)[j] = (runs[j].spider.id, some (fate log runs[j].execution)) := by
    simp [ofRuns]
  exact hcell ▸ List.set_getElem_self hlen

-- A step of a call turns its entry.
theorem turns_call {calls : List DirectCall} {i : Nat} {c c' : DirectCall}
    (hi : calls[i]? = some c) (hs : c'.spider = c.spider) :
    Turns c.spider c.fate? c'.fate? (ofCalls calls) (ofCalls (calls.set i c')) := by
  have hold : (ofCalls calls)[i]? = some (c.spider, c.fate?) := by
    rw [ofCalls, List.getElem?_map, hi, Option.map_some]
  rw [ofCalls, ofCalls, List.map_set, hs]
  exact turns_set hold

end Ledger

end Spiderworks
