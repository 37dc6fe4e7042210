import Mathlib.Data.List.Induction
import Mathlib.Data.List.Nodup
import Spiderworks.Json.Basic

namespace Spiderworks

variable {α : Type} {entries : List (String × α)} {key : String}

theorem Entries.insert_new (value : α) (h : key ∉ entries.map (·.1)) :
    Entries.insert entries key value = entries ++ [(key, value)] := by
  induction entries with
  | nil => rfl
  | cons e es ih =>
      obtain ⟨k, v⟩ := e
      simp only [List.map_cons, List.mem_cons, not_or] at h
      rw [Entries.insert, if_neg (Ne.symm h.1), ih h.2]
      rfl

theorem Entries.ofList_concat (entries : List (String × α)) (e : String × α) :
    Entries.ofList (entries ++ [e]) = Entries.insert (Entries.ofList entries) e.1 e.2 := by
  rw [Entries.ofList, List.foldl_append]
  rfl

theorem Entries.ofList_of_nodup (h : (entries.map (·.1)).Nodup) :
    Entries.ofList entries = entries := by
  induction entries using List.reverseRecOn with
  | nil => rfl
  | append_singleton es e ih =>
      rw [List.map_append, List.nodup_append] at h
      rw [Entries.ofList_concat, ih h.1]
      refine Entries.insert_new e.2 fun hm => ?_
      exact h.2.2 _ hm _ (List.mem_singleton_self _) rfl

-- A key that is known already takes the new value; so the keys stay as they are.
theorem Entries.keys_insert (entries : List (String × α)) (key : String) (value : α) :
    (Entries.insert entries key value).map (·.1) =
      if key ∈ entries.map (·.1) then entries.map (·.1) else entries.map (·.1) ++ [key] := by
  induction entries with
  | nil => rfl
  | cons e es ih =>
      obtain ⟨k, v⟩ := e
      rw [Entries.insert]
      by_cases hk : k = key
      · simp [hk]
      · rw [if_neg hk, List.map_cons, ih]
        by_cases hm : key ∈ es.map (·.1)
        · simp [hm]
        · simp [hm, Ne.symm hk]

theorem Entries.nodup_ofList (entries : List (String × α)) :
    ((Entries.ofList entries).map (·.1)).Nodup := by
  induction entries using List.reverseRecOn with
  | nil => exact List.nodup_nil
  | append_singleton es e ih =>
      rw [Entries.ofList_concat, Entries.keys_insert]
      split
      · exact ih
      · rename_i hnew
        refine List.nodup_append.mpr ⟨ih, List.nodup_singleton _, ?_⟩
        rintro a ha b hb rfl
        exact hnew (List.mem_singleton.mp hb ▸ ha)

theorem Entries.mem_insert {e : String × α} {value : α}
    (h : e ∈ Entries.insert entries key value) : e ∈ entries ∨ e.2 = value := by
  induction entries with
  | nil => exact .inr (by rw [List.mem_singleton.mp h])
  | cons f es ih =>
      obtain ⟨k, v⟩ := f
      rw [Entries.insert] at h
      split at h
      · rcases List.mem_cons.mp h with rfl | h
        · exact .inr rfl
        · exact .inl (List.mem_cons_of_mem _ h)
      · rcases List.mem_cons.mp h with rfl | h
        · exact .inl (List.mem_cons_self ..)
        · exact (ih h).imp_left (List.mem_cons_of_mem _)

-- No value is made up.
theorem Entries.exists_of_mem_ofList {e : String × α} (h : e ∈ Entries.ofList entries) :
    ∃ f ∈ entries, f.2 = e.2 := by
  induction entries using List.reverseRecOn with
  | nil => cases h
  | append_singleton es f ih =>
      rw [Entries.ofList_concat] at h
      rcases Entries.mem_insert h with h | h
      · obtain ⟨g, hg, hv⟩ := ih h
        exact ⟨g, List.mem_append_left _ hg, hv⟩
      · exact ⟨f, List.mem_append_right _ (List.mem_singleton_self f), h.symm⟩

-- The keys are those of the list, in the order in which they first come.
theorem Entries.keys_ofList (entries : List (String × α)) :
    (Entries.ofList entries).map (·.1) = (entries.map (·.1)).eraseDups := by
  induction entries using List.reverseRecOn with
  | nil => rfl
  | append_singleton es e ih =>
      rw [Entries.ofList_concat, Entries.keys_insert, ih, List.map_append, List.eraseDups_append,
        List.map_singleton]
      by_cases hknown : e.1 ∈ es.map (·.1)
      · rw [if_pos (List.mem_eraseDups.mpr hknown)]
        simp [List.removeAll, hknown]
      · rw [if_neg fun hmem => hknown (List.mem_eraseDups.mp hmem)]
        simp [List.removeAll, hknown, List.eraseDups_cons]

theorem Entries.get?_insert (entries : List (String × α)) (key other : String) (value : α) :
    Entries.get? (Entries.insert entries key value) other =
      if key = other then some value else Entries.get? entries other := by
  induction entries with
  | nil => by_cases hkey : key = other <;> simp [Entries.get?, Entries.insert, hkey]
  | cons e es ih =>
      obtain ⟨k, v⟩ := e
      rw [Entries.insert]
      by_cases hk : k = key
      · subst hk
        by_cases hkey : k = other <;> simp [Entries.get?, hkey]
      · rw [if_neg hk]
        by_cases hother : k = other
        · subst hother
          simp [Entries.get?, Ne.symm hk]
        · have hskip (rest : List (String × α)) :
              Entries.get? ((k, v) :: rest) other = Entries.get? rest other := by
            simp [Entries.get?, hother]
          rw [hskip, hskip, ih]

-- The last value of a key counts.
theorem Entries.get?_ofList (entries : List (String × α)) (key : String) :
    Entries.get? (Entries.ofList entries) key = Entries.get? entries.reverse key := by
  induction entries using List.reverseRecOn with
  | nil => rfl
  | append_singleton es e ih =>
      rw [Entries.ofList_concat, Entries.get?_insert, ih, List.reverse_append,
        List.reverse_singleton]
      by_cases hkey : e.1 = key <;> simp [Entries.get?, hkey]

theorem Entries.get?_append_other {other : String} (h : key ≠ other) (value : α)
    (before after : List (String × α)) :
    Entries.get? (before ++ (key, value) :: after) other =
      Entries.get? (before ++ after) other := by
  simp [Entries.get?, List.find?_append, h]

theorem Entries.get?_append_self {before : List (String × α)} (h : ∀ e ∈ before, e.1 ≠ key)
    (value : α) (after : List (String × α)) :
    Entries.get? (before ++ (key, value) :: after) key = some value := by
  have hnone : before.find? (·.1 == key) = none :=
    List.find?_eq_none.mpr fun e he => by simpa using h e he
  simp [Entries.get?, List.find?_append, hnone]

theorem Entries.reverse_append_cons (before after : List (String × α)) (e : String × α) :
    (before ++ e :: after).reverse = after.reverse ++ e :: before.reverse := by
  rw [List.reverse_append, List.reverse_cons, List.append_assoc, List.singleton_append]

theorem Entries.get?_ofList_other {other : String} (h : key ≠ other) (value : α)
    (before after : List (String × α)) :
    Entries.get? (Entries.ofList (before ++ (key, value) :: after)) other =
      Entries.get? (Entries.ofList (before ++ after)) other := by
  rw [Entries.get?_ofList, Entries.get?_ofList, Entries.reverse_append_cons,
    Entries.get?_append_other h, List.reverse_append]

theorem Entries.get?_ofList_last {after : List (String × α)} (h : ∀ e ∈ after, e.1 ≠ key)
    (value : α) (before : List (String × α)) :
    Entries.get? (Entries.ofList (before ++ (key, value) :: after)) key = some value := by
  rw [Entries.get?_ofList, Entries.reverse_append_cons]
  exact Entries.get?_append_self (fun e he => h e (List.mem_reverse.mp he)) value _

namespace Entries

variable {rest : List (String × α)}

-- ### Looking up

theorem get?_append (entries rest : List (String × α)) (key : String) :
    get? (entries ++ rest) key = (get? entries key).or (get? rest key) := by
  rw [get?, List.find?_append, Option.map_or]
  rfl

theorem get?_eq_none (h : key ∉ entries.map (·.1)) : get? entries key = none := by
  rw [get?, Option.map_eq_none_iff, List.find?_eq_none]
  intro e he hkey
  exact h (List.mem_map.mpr ⟨e, he, by simpa using hkey⟩)

-- ### Taking out

theorem takeOut_cons_self (v : α) (rest : List (String × α)) :
    (takeOut ((key, v) :: rest) key).Perm rest := by
  rw [takeOut, if_pos rfl]
  cases hlast : rest.getLast? with
  | none =>
      rw [List.getLast?_eq_none_iff.mp hlast]
  | some last =>
      obtain ⟨before, rfl⟩ := List.getLast?_eq_some_iff.mp hlast
      rw [List.dropLast_concat]
      exact (List.perm_append_singleton last before).symm

theorem takeOut_perm (h : (entries.map (·.1)).Nodup) (key : String) :
    (takeOut entries key).Perm (entries.filter fun e => e.1 ≠ key) := by
  induction entries with
  | nil => exact .nil
  | cons e rest ih =>
      obtain ⟨k, v⟩ := e
      obtain ⟨hnew, hrest⟩ := List.nodup_cons.mp h
      by_cases hk : k = key
      · subst hk
        have hall : rest.filter (fun e => e.1 ≠ k) = rest := by
          refine List.filter_eq_self.mpr fun e he => ?_
          simpa using fun heq => hnew (List.mem_map.mpr ⟨e, he, heq⟩)
        rw [List.filter_cons_of_neg (by simp), hall]
        exact takeOut_cons_self v rest
      · rw [takeOut, if_neg hk, List.filter_cons_of_pos (by simpa using hk)]
        exact (ih hrest).cons (k, v)

-- Whatever the order of the removals.
theorem foldl_takeOut_perm (h : (entries.map (·.1)).Nodup) (keys : List String) :
    (keys.foldl takeOut entries).Perm (entries.filter fun e => e.1 ∉ keys) := by
  induction keys generalizing entries with
  | nil => simp
  | cons key keys ih =>
      have hperm := takeOut_perm h key
      have hnodup : ((takeOut entries key).map (·.1)).Nodup :=
        ((hperm.map (·.1)).nodup_iff).mpr (h.sublist (List.filter_sublist.map _))
      refine (ih hnodup).trans ((hperm.filter _).trans ?_)
      rw [List.filter_filter]
      simp only [List.mem_cons, not_or, Bool.decide_and, Bool.and_comm]
      exact .refl _

end Entries

end Spiderworks
