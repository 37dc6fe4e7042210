import Spiderworks.Proofs.Json.Entries
import Spiderworks.Proofs.Json.Values

namespace Spiderworks.Json

variable {depth : Nat} {v : Json} {entries : List (String × Json)} {c : Char}

-- The values that have a text of their own. In an object every key stands once, whole numbers are
-- those that are kept exactly, a double is read back from its text, and around each part there are
-- at most so many containers.
inductive Printable : Nat → Json → Prop where
  | null {depth : Nat} : Printable depth .null
  | bool {depth : Nat} (b : Bool) : Printable depth (.bool b)
  | whole {depth : Nat} {k : Int} (h : Number.isExact k = true) :
      Printable depth (.num (.whole k))
  | double {depth : Nat} {x : Float} (h : (Number.double x).Rereads) :
      Printable depth (.num (.double x))
  | str {depth : Nat} (text : String) : Printable depth (.str text)
  | arr {depth : Nat} {items : List Json} (h : ∀ v ∈ items, Printable depth v) :
      Printable (depth + 1) (.arr items)
  | obj {depth : Nat} {entries : List (String × Json)} (once : (entries.map (·.1)).Nodup)
      (h : ∀ e ∈ entries, Printable depth e.2) : Printable (depth + 1) (.obj entries)

-- ### Reading back

theorem Printable.rereads (h : Printable depth v) : Rereads depth v := by
  induction h with
  | null => exact .null
  | bool b => exact .bool b
  | whole h => exact .num (rereads_whole h)
  | double h => exact .num h
  | str text => exact .str text
  | arr h ih => exact .arr ih
  | obj once h ih => exact .obj ih

theorem settledItems_eq (items : List Json) : settledItems items = items.map settled := by
  induction items with
  | nil => rfl
  | cons v vs ih => rw [settledItems, ih, List.map_cons]

theorem settledEntries_eq (entries : List (String × Json)) :
    settledEntries entries = entries.map fun e => (e.1, settled e.2) := by
  induction entries with
  | nil => rfl
  | cons e es ih => rw [settledEntries, ih, List.map_cons]

-- No key comes again, so there is nothing to settle.
theorem Printable.settled_eq (h : Printable depth v) : settled v = v := by
  induction h with
  | null => rfl
  | bool b => rfl
  | whole h => rfl
  | double h => rfl
  | str text => rfl
  | @arr depth items h ih =>
      have hitems : items.map settled = items :=
        (List.map_congr_left ih).trans (List.map_id' items)
      rw [settled, settledItems_eq, hitems]
  | @obj depth entries once h ih =>
      have hentries : settledEntries entries = entries := by
        rw [settledEntries_eq]
        exact (List.map_congr_left fun e he => by rw [ih e he]).trans (List.map_id' entries)
      rw [settled, hentries, Entries.ofList_of_nodup once]

theorem Printable.readChars_compact (h : Printable depthLimit v) :
    readChars (compactChars v) = .ok v := by
  have hfuel : 2 * (compactChars v).length ≤ fuelFor (compactChars v) := Nat.le_add_right _ _
  have hread := h.rereads.spells.2 _ [] hfuel .nil
  rw [List.append_nil] at hread
  rw [readChars, hread]
  exact congrArg Except.ok h.settled_eq

theorem Printable.read?_compact (h : Printable depthLimit v) : read? (compact v) = some v := by
  rw [read?, read, compact, String.toList_ofList, h.readChars_compact]
  rfl

-- ### One line

theorem mem_joined {gap closing : List Char} {texts : List (List Char)}
    (h : c ∈ joined gap closing texts) :
    c ∈ gap ∨ c ∈ closing ∨ c = ',' ∨ ∃ s ∈ texts, c ∈ s := by
  induction texts with
  | nil => exact .inr (.inl h)
  | cons s texts ih =>
      have hs (hc : c ∈ s) : ∃ t ∈ s :: texts, c ∈ t := ⟨s, List.mem_cons_self .., hc⟩
      cases texts with
      | nil =>
          simp only [joined, List.mem_append] at h
          rcases h with h | h | h
          · exact .inl h
          · exact .inr (.inr (.inr (hs h)))
          · exact .inr (.inl h)
      | cons t rest =>
          simp only [joined, List.mem_append, List.mem_cons] at h
          rcases h with h | h | h | h
          · exact .inl h
          · exact .inr (.inr (.inr (hs h)))
          · exact .inr (.inr (.inl h))
          · refine (ih h).imp_right (Or.imp_right (Or.imp_right ?_))
            rintro ⟨u, hu, hc⟩
            exact ⟨u, List.mem_cons_of_mem s hu, hc⟩

-- The closing bracket comes last.
theorem exists_joined_eq (gap closing : List Char) (texts : List (List Char)) :
    ∃ s, joined gap closing texts = s ++ closing := by
  induction texts with
  | nil => exact ⟨[], rfl⟩
  | cons t texts ih =>
      cases texts with
      | nil => exact ⟨gap ++ t, by rw [joined, List.append_assoc]⟩
      | cons u rest =>
          obtain ⟨s, hs⟩ := ih
          exact ⟨gap ++ (t ++ ',' :: s), by rw [joined, hs]; simp⟩

-- What is written out of a string is no control character.
theorem control_of_mem_escapeChar {d : Char} (h : d ∈ escapeChar c) : 32 ≤ d.toNat := by
  have digit : ∀ k < 16, 32 ≤ (Text.hexDigit k).toNat := by decide
  have fixed {s : List Char} (hs : s.all (fun d => decide (32 ≤ d.toNat)) = true) (h : d ∈ s) :
      32 ≤ d.toNat := of_decide_eq_true (List.all_eq_true.mp hs d h)
  unfold escapeChar at h
  split at h
  · exact fixed rfl h
  split at h
  · exact fixed rfl h
  split at h
  · exact fixed rfl h
  split at h
  · exact fixed rfl h
  split at h
  · exact fixed rfl h
  split at h
  · exact fixed rfl h
  split at h
  · exact fixed rfl h
  split at h
  · rcases List.mem_append.mp h with h | h
    · exact fixed rfl h
    · simp only [Text.hexByte, List.mem_cons, List.not_mem_nil, or_false] at h
      rcases h with rfl | rfl
      · exact digit _ (Nat.mod_lt _ (by decide))
      · exact digit _ (Nat.mod_lt _ (by decide))
  · rename_i hc
    cases List.mem_singleton.mp h
    exact Nat.le_of_not_lt hc

theorem control_of_mem_quoted {s : List Char} (h : c ∈ quoted s) : 32 ≤ c.toNat := by
  simp only [quoted, List.mem_cons, List.mem_append, List.mem_flatMap, List.not_mem_nil,
    or_false] at h
  rcases h with (rfl | ⟨d, -, hd⟩) | rfl
  · decide
  · exact control_of_mem_escapeChar hd
  · decide

theorem newline_notMem_joined {closing : List Char} {texts : List (List Char)}
    (h : ∀ s ∈ texts, '\n' ∉ s) (hclosing : '\n' ∉ closing) : '\n' ∉ joined [] closing texts := by
  intro hc
  rcases mem_joined hc with hc | hc | hc | ⟨s, hs, hc⟩
  · cases hc
  · exact hclosing hc
  · exact absurd hc (by decide)
  · exact h s hs hc

theorem newline_notMem_quoted (s : List Char) : '\n' ∉ quoted s := fun hc =>
  absurd (control_of_mem_quoted hc) (by decide)

theorem newline_notMem_number (n : Number) : '\n' ∉ number n := fun hc =>
  absurd (isSpace_of_mem_number _ hc) (by decide)

theorem newline_notMem_cons (hc : c ≠ '\n') {s : List Char} (hs : '\n' ∉ s) : '\n' ∉ c :: s :=
  List.not_mem_cons_of_ne_of_not_mem hc.symm hs

theorem Printable.newline_notMem (h : Printable depth v) : '\n' ∉ compactChars v := by
  induction h with
  | null => decide
  | bool b => cases b <;> decide
  | @whole depth k h =>
      rw [compactChars]
      exact newline_notMem_number _
  | @double depth x h =>
      rw [compactChars]
      exact newline_notMem_number _
  | str text =>
      rw [compactChars]
      exact newline_notMem_quoted _
  | @arr depth items h ih =>
      rw [compactChars, compactItems_eq]
      refine newline_notMem_cons (by decide) (newline_notMem_joined (fun s hs => ?_) (by decide))
      obtain ⟨w, hw, rfl⟩ := List.mem_map.mp hs
      exact ih w hw
  | @obj depth entries once h ih =>
      rw [compactChars, compactEntries_eq]
      refine newline_notMem_cons (by decide) (newline_notMem_joined (fun s hs => ?_) (by decide))
      obtain ⟨e, he, rfl⟩ := List.mem_map.mp hs
      intro hc
      rcases List.mem_append.mp hc with hc | hc
      · exact newline_notMem_quoted _ hc
      · exact newline_notMem_cons (by decide) (ih e he) hc

-- An object stands between its braces.
theorem exists_compactChars_obj (entries : List (String × Json)) :
    ∃ s, compactChars (.obj entries) = '{' :: s ++ ['}'] := by
  obtain ⟨s, hs⟩ := exists_joined_eq [] ['}'] (entries.map (entryText [] compactChars))
  exact ⟨s, by rw [compactChars, compactEntries_eq, hs, List.cons_append]⟩

end Spiderworks.Json
