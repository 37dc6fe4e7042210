import Mathlib.Data.List.TakeWhile
import Spiderworks.Proofs.Store.Log
import Spiderworks.Proofs.Store.Notes

namespace Spiderworks

open Time (Instant)

namespace Store

-- These entries at the end of the log, with the next numbers.
def loggedAll (entries : List (NewLog × Instant)) (s : Store) : Store :=
  { s with
    logs := s.logs ++ rowsFrom (s.lastLog + 1) entries
    lastLog := s.lastLog + entries.length }

variable {s : Store} {entries : List (NewLog × Instant)}

theorem loggedAll_nil (s : Store) : s.loggedAll [] = s := by
  simp [loggedAll, rowsFrom]

theorem loggedAll_cons (entry : NewLog × Instant) (rest : List (NewLog × Instant)) (s : Store) :
    s.loggedAll (entry :: rest) = (s.logged entry.2 entry.1).loggedAll rest := by
  have hlast : s.lastLog + 1 + (rest.length : Int) =
      s.lastLog + ((entry :: rest).length : Int) := by
    rw [List.length_cons]
    omega
  rw [loggedAll, loggedAll, rowsFrom]
  simp only [logged, List.append_assoc, List.singleton_append, hlast]
  rfl

theorem foldl_logged (entries : List (NewLog × Instant)) (s : Store) :
    entries.foldl (fun t entry => t.logged entry.2 entry.1) s = s.loggedAll entries := by
  induction entries generalizing s with
  | nil => exact (loggedAll_nil s).symm
  | cons entry rest ih => rw [List.foldl_cons, ih, loggedAll_cons]

theorem appendLogs_eq_loggedAll (h : ∀ entry ∈ entries, s.has entry.1.spider = true) :
    s.appendLogs entries = .ok (s.loggedAll entries) := by
  rw [appendLogs_eq h, foldl_logged]

theorem appendLogs_eq_ok_iff {t : Store} : s.appendLogs entries = .ok t ↔
    (∀ entry ∈ entries, s.has entry.1.spider = true) ∧ t = s.loggedAll entries := by
  by_cases hall : ∀ entry ∈ entries, s.has entry.1.spider = true
  · rw [appendLogs_eq_loggedAll hall, Except.ok.injEq]
    exact ⟨fun h => ⟨hall, h.symm⟩, fun h => h.2.symm⟩
  · have hmissing : ∃ entry ∈ entries, s.has entry.1.spider = false := by simpa using hall
    obtain ⟨entry, hentry, hid⟩ := hmissing
    rw [appendLogs_missing hentry hid]
    exact iff_of_false nofun fun h => hall h.1

theorem logs_loggedAll (entries : List (NewLog × Instant)) (s : Store) :
    Logs s entries (s.loggedAll entries) := ⟨rfl, rfl⟩

-- What is added to a log, takes no spider away.
theorem run_appendEach (entries : List (NewLog × Instant)) (s : Store) (points : List Store) :
    (Journal.mk s points).run (Query.appendEach entries) =
      (if entries.all fun entry => s.has entry.1.spider then .ok () else .error .noSuchOwner,
        ⟨s.loggedAll (entries.takeWhile fun entry => s.has entry.1.spider), points⟩) := by
  induction entries generalizing s with
  | nil =>
      rw [List.takeWhile_nil, loggedAll_nil]
      rfl
  | cons entry rest ih =>
      rw [Query.appendEach, Journal.run_bind, Query.appendLog_eq, Query.run_settle]
      cases hid : s.has entry.1.spider with
      | false =>
          have hfails : s.appendLog entry.2 entry.1 = .error .noSuchOwner := by
            rw [appendLog, hid]
            rfl
          rw [List.takeWhile_cons_of_neg (by simp [hid]), loggedAll_nil]
          simp only [hfails]
          simp [hid]
      | true =>
          rw [List.takeWhile_cons_of_pos (by simp [hid]), loggedAll_cons, List.all_cons, hid,
            Bool.true_and]
          simp only [appendLog_eq entry.2 hid]
          exact ih (s.logged entry.2 entry.1)

theorem on_appendEach (entries : List (NewLog × Instant)) (s : Store) :
    (Query.appendEach entries).on s =
      (if entries.all fun entry => s.has entry.1.spider then .ok () else .error .noSuchOwner,
        s.loggedAll (entries.takeWhile fun entry => s.has entry.1.spider)) := by
  rw [Query.on, run_appendEach]

-- Entries that all have a spider make the same store at once and one after the other. When one has
-- none, both ways fail; the first leaves the store as it was, and the second has appended exactly
-- the entries before the first that has none.
theorem batch_agrees (s : Store) (entries : List (NewLog × Instant)) :
    ((∀ entry ∈ entries, s.has entry.1.spider = true) →
      s.step (.ask (.appendLogs entries)) = (.ok .done, s.loggedAll entries) ∧
      (Query.appendEach entries).on s = (.ok (), s.loggedAll entries)) ∧
    ((∃ entry ∈ entries, s.has entry.1.spider = false) →
      s.step (.ask (.appendLogs entries)) = (.error .noSuchOwner, s) ∧
      (Query.appendEach entries).on s = (.error .noSuchOwner,
        s.loggedAll (entries.takeWhile fun entry => s.has entry.1.spider))) := by
  constructor
  · intro h
    have hall : (entries.all fun entry => s.has entry.1.spider) = true := List.all_eq_true.mpr h
    constructor
    · rw [step_ask, Operation.apply, appendLogs_eq_loggedAll h]
      rfl
    · rw [on_appendEach, if_pos hall, List.takeWhile_eq_self_iff.mpr h]
  · rintro ⟨entry, hentry, hid⟩
    have hnot : ¬(entries.all fun entry => s.has entry.1.spider) = true := fun hall => by
      have hhas := List.all_eq_true.mp hall entry hentry
      rw [hid] at hhas
      cases hhas
    constructor
    · rw [step_ask, Operation.apply, appendLogs_missing hentry hid]
      rfl
    · rw [on_appendEach, if_neg hnot]

def fineBatch : List (NewLog × Instant) := [(noted 1, ⟨5, 0⟩), (heard 1 "one" "a", ⟨6, 0⟩)]

-- The entry without a spider stands between two others.
theorem batch_agrees_partial :
    (∀ entry ∈ fineBatch, (empty.perform [newsCreated]).has entry.1.spider = true) ∧
    (Query.appendEach fineBatch).on (empty.perform [newsCreated]) =
      (.ok (), (empty.perform [newsCreated]).loggedAll fineBatch) ∧
    (∃ entry ∈ mixedBatch, (empty.perform [newsCreated]).has entry.1.spider = false) ∧
    (empty.perform [newsCreated]).step (.ask (.appendLogs mixedBatch)) =
      (.error .noSuchOwner, empty.perform [newsCreated]) ∧
    (Query.appendEach mixedBatch).on (empty.perform [newsCreated]) =
      (.error .noSuchOwner, (empty.perform [newsCreated]).loggedAll [(noted 1, ⟨0, 0⟩)]) := by
  have hall : ∀ entry ∈ fineBatch, (empty.perform [newsCreated]).has entry.1.spider = true := by
    decide
  have hmissing : ∃ entry ∈ mixedBatch,
      (empty.perform [newsCreated]).has entry.1.spider = false := by decide
  have htake : mixedBatch.takeWhile
      (fun entry => (empty.perform [newsCreated]).has entry.1.spider) = [(noted 1, ⟨0, 0⟩)] := by
    decide
  obtain ⟨hbatch, heach⟩ := (batch_agrees (empty.perform [newsCreated]) mixedBatch).2 hmissing
  exact ⟨hall, ((batch_agrees _ fineBatch).1 hall).2, hmissing, hbatch, htake ▸ heach⟩

end Store

namespace SharedStore

variable {s t : SharedStore} {entries : List (NewLog × Instant)}

theorem appendLogs_ok (h : s.run (Session.appendLogs entries) = (.ok (), t)) :
    t.store = s.store.loggedAll entries ∧
      (∀ entry ∈ entries, s.store.has entry.1.spider = true) ∧ s.Granted [.appendLogs] t := by
  rw [Session.appendLogs_eq, Session.tell, run_attempt] at h
  split at h
  · cases h
  · rename_i hgranted
    split at h
    · cases h
    · rename_i after hafter
      cases h
      obtain ⟨u, hu, heq⟩ := map_eq_ok_iff.mp hafter
      cases heq
      obtain ⟨hall, rfl⟩ := Store.appendLogs_eq_ok_iff.mp hu
      exact ⟨rfl, hall, .one hgranted _⟩

theorem appendLogs_error {e : StoreError}
    (h : s.run (Session.appendLogs entries) = (.error e, t)) : t.store = s.store := by
  rw [Session.appendLogs_eq, Session.tell] at h
  exact store_of_attempt_error h

end SharedStore

end Spiderworks
