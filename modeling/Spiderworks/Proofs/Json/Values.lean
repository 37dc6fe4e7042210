import Spiderworks.Proofs.Json.Printed

namespace Spiderworks.Json

open Spiderworks.Text

variable {s t rest : List Char} {fuel depth level : Nat} {v : Json}

-- A value whose numbers are read back from their own texts, with at most so many containers around
-- each part of it.
inductive Rereads : Nat → Json → Prop where
  | null {depth : Nat} : Rereads depth .null
  | bool {depth : Nat} (b : Bool) : Rereads depth (.bool b)
  | num {depth : Nat} {n : Number} (h : n.Rereads) : Rereads depth (.num n)
  | str {depth : Nat} (text : String) : Rereads depth (.str text)
  | arr {depth : Nat} {items : List Json} (h : ∀ v ∈ items, Rereads depth v) :
      Rereads (depth + 1) (.arr items)
  | obj {depth : Nat} {entries : List (String × Json)} (h : ∀ e ∈ entries, Rereads depth e.2) :
      Rereads (depth + 1) (.obj entries)

-- ### Values

-- Wherever the text `s` stands, it is read as the value.
def Spells (depth : Nat) (s : List Char) (v : Json) : Prop :=
  ∀ fuel rest, 2 * s.length ≤ fuel → Ends rest → readValue fuel depth (s ++ rest) = .ok (v, rest)

-- The value is read so from its indented text, whatever the level.
def IsRead (depth : Nat) (v : Json) : Prop :=
  ∀ level fuel rest, 2 * (prettyChars level v).length ≤ fuel → Ends rest →
    readValue fuel depth (prettyChars level v ++ rest) = .ok (v, rest)

theorem ends_newLine (level : Nat) (rest : List Char) : Ends (newLine level ++ rest) :=
  .cons (by decide)

theorem ends_comma (rest : List Char) : Ends (',' :: rest) := .cons (by decide)

-- Space in front of what ends a number ends it as well.
theorem Ends.gap (h : Ends rest) {gap : List Char} (hgap : ∀ c ∈ gap, isSpace c = true) :
    Ends (gap ++ rest) := by
  cases gap with
  | nil => exact h
  | cons c gap =>
      refine .cons ?_
      have hc := hgap c (List.mem_cons_self ..)
      simp only [isSpace, Bool.or_eq_true, beq_iff_eq] at hc
      rcases hc with ((rfl | rfl) | rfl) | rfl <;> decide

-- ### Containers

-- What follows the opening bracket: the texts of the parts with a gap in front of each and commas
-- between them.
def joined (gap closing : List Char) : List (List Char) → List Char
  | [] => closing
  | [s] => gap ++ (s ++ closing)
  | s :: t :: rest => gap ++ (s ++ ',' :: joined gap closing (t :: rest))

def entryText (separator : List Char) (text : Json → List Char) (e : String × Json) : List Char :=
  quoted e.1.toList ++ ':' :: (separator ++ text e.2)

theorem prettyItems_eq (level : Nat) {items : List Json} (h : items ≠ []) :
    prettyItems level items = joined (newLine (level + 1)) (newLine level ++ [']'])
      (items.map (prettyChars (level + 1))) := by
  induction items with
  | nil => exact absurd rfl h
  | cons v vs ih =>
      cases vs with
      | nil => simp [prettyItems, joined]
      | cons w more =>
          rw [prettyItems, ih (List.cons_ne_nil _ _)]
          simp [joined]

theorem compactItems_eq (items : List Json) :
    compactItems items = joined [] [']'] (items.map compactChars) := by
  induction items with
  | nil => rfl
  | cons v vs ih =>
      cases vs with
      | nil => simp [compactItems, joined]
      | cons w more =>
          rw [compactItems, ih]
          simp [joined]

theorem prettyEntries_eq (level : Nat) {entries : List (String × Json)} (h : entries ≠ []) :
    prettyEntries level entries = joined (newLine (level + 1)) (newLine level ++ ['}'])
      (entries.map (entryText [' '] (prettyChars (level + 1)))) := by
  induction entries with
  | nil => exact absurd rfl h
  | cons e es ih =>
      obtain ⟨key, v⟩ := e
      cases es with
      | nil => simp [prettyEntries, joined, entryText]
      | cons f more =>
          rw [prettyEntries, ih (List.cons_ne_nil _ _)]
          simp [joined, entryText]

theorem compactEntries_eq (entries : List (String × Json)) :
    compactEntries entries = joined [] ['}'] (entries.map (entryText [] compactChars)) := by
  induction entries with
  | nil => rfl
  | cons e es ih =>
      obtain ⟨key, v⟩ := e
      cases es with
      | nil => simp [compactEntries, joined, entryText]
      | cons f more =>
          rw [compactEntries, ih]
          simp [joined, entryText]

variable {gap separator last : List Char} {text : Json → List Char}

theorem readItems_item (hgap : ∀ c ∈ gap, isSpace c = true)
    (hv : readValue fuel depth (s ++ t) = .ok (v, t)) :
    readItems (fuel + 1) depth (gap ++ (s ++ t)) =
      match skipSpace t with
      | [] => .error .cutShort
      | ']' :: rest => .ok ([v], rest)
      | ',' :: rest => do
        let (vs, rest) ← readItems fuel depth rest
        return (v :: vs, rest)
      | _ => .error .malformed := by
  rw [readItems, readValue_skip (skipSpace_append hgap _), hv]
  rfl

theorem readItems_joined {items : List Json} (h : ∀ v ∈ items, Spells depth (text v) v)
    (hgap : ∀ c ∈ gap, isSpace c = true) (hlast : ∀ c ∈ last, isSpace c = true) (hne : items ≠ [])
    (hf : 2 * (joined gap (last ++ [']']) (items.map text)).length ≤ fuel) :
    readItems fuel depth (joined gap (last ++ [']']) (items.map text) ++ rest) =
      .ok (items, rest) := by
  induction items generalizing fuel with
  | nil => exact absurd rfl hne
  | cons v vs ih =>
      have hv := h v (List.mem_cons_self ..)
      cases vs with
      | nil =>
          simp only [List.map_cons, List.map_nil, joined, List.length_append,
            List.length_singleton] at hf
          obtain ⟨fuel, rfl⟩ : ∃ k, fuel = k + 1 := ⟨fuel - 1, by omega⟩
          have hends : Ends (last ++ ']' :: rest) := Ends.gap (.cons (by decide)) hlast
          have hread := hv fuel (last ++ ']' :: rest) (by omega) hends
          simp only [List.map_cons, List.map_nil, joined, List.append_assoc,
            List.singleton_append]
          rw [readItems_item hgap hread, skipSpace_append hlast, skipSpace_cons rfl]
          rfl
      | cons w more =>
          simp only [List.map_cons, joined, List.length_append, List.length_cons] at hf ih
          obtain ⟨fuel, rfl⟩ : ∃ k, fuel = k + 1 := ⟨fuel - 1, by omega⟩
          have hread := hv fuel
            (',' :: (joined gap (last ++ [']']) (text w :: more.map text) ++ rest)) (by omega)
            (ends_comma _)
          have hmore : readItems fuel depth
              (joined gap (last ++ [']']) (text w :: more.map text) ++ rest) =
                .ok (w :: more, rest) :=
            ih (fun u hu => h u (List.mem_cons_of_mem _ hu)) (List.cons_ne_nil _ _) (by omega)
          simp only [List.map_cons, joined, List.append_assoc, List.cons_append]
          rw [readItems_item hgap hread, skipSpace_cons rfl]
          simp only [hmore]
          rfl

theorem readEntries_entry {key : String} (hgap : ∀ c ∈ gap, isSpace c = true)
    (hsep : ∀ c ∈ separator, isSpace c = true)
    (hv : readValue fuel depth (s ++ t) = .ok (v, t)) :
    readEntries (fuel + 1) depth
        (gap ++ (quoted key.toList ++ ':' :: (separator ++ (s ++ t)))) =
      match skipSpace t with
      | [] => .error .cutShort
      | '}' :: rest => .ok ([(key, v)], rest)
      | ',' :: rest => do
        let (es, rest) ← readEntries fuel depth rest
        return ((key, v) :: es, rest)
      | _ => .error .malformed := by
  have hspace : readValue fuel depth (separator ++ (s ++ t)) = .ok (v, t) := by
    rw [← hv]
    exact readValue_skip (skipSpace_append hsep _)
  rw [readEntries, skipSpace_append hgap, quoted_append, skipSpace_cons rfl]
  simp only [readQuoted_toList, bind, Except.bind,
    skipSpace_cons (show isSpace ':' = false from rfl), hspace, String.ofList_toList]
  rfl

theorem readEntries_joined {entries : List (String × Json)}
    (h : ∀ e ∈ entries, Spells depth (text e.2) e.2) (hgap : ∀ c ∈ gap, isSpace c = true)
    (hsep : ∀ c ∈ separator, isSpace c = true) (hlast : ∀ c ∈ last, isSpace c = true)
    (hne : entries ≠ [])
    (hf : 2 * (joined gap (last ++ ['}']) (entries.map (entryText separator text))).length ≤ fuel) :
    readEntries fuel depth
        (joined gap (last ++ ['}']) (entries.map (entryText separator text)) ++ rest) =
      .ok (entries, rest) := by
  induction entries generalizing fuel with
  | nil => exact absurd rfl hne
  | cons e es ih =>
      obtain ⟨key, v⟩ := e
      have hv : Spells depth (text v) v := h (key, v) (List.mem_cons_self ..)
      cases es with
      | nil =>
          simp only [List.map_cons, List.map_nil, joined, entryText, List.length_append,
            List.length_cons] at hf
          obtain ⟨fuel, rfl⟩ : ∃ k, fuel = k + 1 := ⟨fuel - 1, by omega⟩
          have hends : Ends (last ++ '}' :: rest) := Ends.gap (.cons (by decide)) hlast
          have hread := hv fuel (last ++ '}' :: rest) (by omega) hends
          simp only [List.map_cons, List.map_nil, joined, entryText, List.append_assoc,
            List.cons_append, List.nil_append]
          rw [readEntries_entry hgap hsep hread, skipSpace_append hlast, skipSpace_cons rfl]
          rfl
      | cons f more =>
          have hmore {k : Nat} := @ih k (fun g hg => h g (List.mem_cons_of_mem _ hg))
            (List.cons_ne_nil _ _)
          rw [List.map_cons, List.map_cons, joined, ← List.map_cons] at hf ⊢
          generalize joined gap (last ++ ['}']) ((f :: more).map (entryText separator text)) = u
            at hf hmore ⊢
          simp only [entryText, List.length_append, List.length_cons] at hf
          obtain ⟨fuel, rfl⟩ : ∃ k, fuel = k + 1 := ⟨fuel - 1, by omega⟩
          have hread := hv fuel (',' :: (u ++ rest)) (by omega) (ends_comma _)
          simp only [entryText, List.append_assoc, List.cons_append]
          rw [readEntries_entry hgap hsep hread, skipSpace_cons rfl]
          simp only [hmore (k := fuel) (by omega)]
          rfl

theorem readValue_str (fuel depth : Nat) (text : String) (rest : List Char) :
    readValue (fuel + 1) depth (quoted text.toList ++ rest) = .ok (.str text, rest) := by
  rw [readValue, quoted_append, skipSpace_cons rfl]
  simp only [Char.reduceEq, ↓reduceIte, readQuoted_toList, bind, Except.bind,
    String.ofList_toList]
  rfl

-- A container in which there is something does not end at once.
theorem readValue_arr {items : List Json} (h : readItems fuel depth s = .ok (items, rest)) :
    readValue (fuel + 1) (depth + 1) ('[' :: s) = .ok (.arr items, rest) := by
  have hopen : ∀ r, skipSpace s ≠ ']' :: r := by
    intro r hr
    cases fuel with
    | zero => cases h
    | succ fuel =>
        rw [readItems] at h
        cases fuel with
        | zero => cases h
        | succ fuel =>
            rw [readValue, hr] at h
            cases h
  rw [← readItems_skip (skipSpace_skipSpace s)] at h
  rw [readValue, skipSpace_cons rfl]
  simp only [Char.reduceEq, ↓reduceIte, Nat.add_one_ne_zero, show isDigit '[' = false from rfl,
    Bool.false_eq_true]
  rw [Nat.add_sub_cancel, h]
  rfl

theorem readValue_obj {entries : List (String × Json)}
    (h : readEntries fuel depth s = .ok (entries, rest)) :
    readValue (fuel + 1) (depth + 1) ('{' :: s) = .ok (.obj entries, rest) := by
  have hopen : ∀ r, skipSpace s ≠ '}' :: r := by
    intro r hr
    cases fuel with
    | zero => cases h
    | succ fuel =>
        rw [readEntries, hr] at h
        cases h
  rw [← readEntries_skip (skipSpace_skipSpace s)] at h
  rw [readValue, skipSpace_cons rfl]
  simp only [Char.reduceEq, ↓reduceIte, Nat.add_one_ne_zero, show isDigit '{' = false from rfl,
    Bool.false_eq_true]
  rw [Nat.add_sub_cancel, h]
  rfl

-- ### Values and their texts

namespace Spells

-- There is fuel for the first character of a value.
theorem of_succ (hne : s ≠ []) (h : ∀ fuel rest, 2 * s.length ≤ fuel + 1 → Ends rest →
    readValue (fuel + 1) depth (s ++ rest) = .ok (v, rest)) : Spells depth s v := by
  intro fuel rest hf hr
  have hpos := List.length_pos_iff.mpr hne
  obtain ⟨fuel, rfl⟩ : ∃ k, fuel = k + 1 := ⟨fuel - 1, by omega⟩
  exact h fuel rest hf hr

theorem null : Spells depth "null".toList .null :=
  .of_succ (List.cons_ne_nil _ _) fun _ _ _ _ => rfl

theorem keyword (b : Bool) : Spells depth (Json.keyword b) (.bool b) := by
  refine .of_succ ?_ fun _ _ _ _ => ?_
  · cases b <;> exact List.cons_ne_nil _ _
  · cases b <;> rfl

theorem number {n : Number} (h : n.Rereads) : Spells depth (Json.number n) (.num n) := by
  refine .of_succ (fun hnil => ?_) fun _ _ _ hr => readValue_number h hr
  have hread : readValue 1 0 (Json.number n ++ []) = .ok (.num n, []) := readValue_number h .nil
  rw [hnil] at hread
  cases hread

theorem quoted (text : String) : Spells depth (Json.quoted text.toList) (.str text) :=
  .of_succ (List.cons_ne_nil _ _) fun fuel rest _ _ => readValue_str fuel _ text rest

theorem emptyArr : Spells (depth + 1) ['[', ']'] (.arr []) :=
  .of_succ (List.cons_ne_nil _ _) fun _ _ _ _ => rfl

theorem emptyObj : Spells (depth + 1) ['{', '}'] (.obj []) :=
  .of_succ (List.cons_ne_nil _ _) fun _ _ _ _ => rfl

theorem arr (last : List Char) {items : List Json} (h : ∀ v ∈ items, Spells depth (text v) v)
    (hgap : ∀ c ∈ gap, isSpace c = true) (hlast : ∀ c ∈ last, isSpace c = true)
    (hne : items ≠ []) :
    Spells (depth + 1) ('[' :: joined gap (last ++ [']']) (items.map text)) (.arr items) := by
  refine .of_succ (List.cons_ne_nil _ _) fun fuel rest hf _ => ?_
  rw [List.length_cons] at hf
  exact readValue_arr (readItems_joined h hgap hlast hne (by omega))

theorem obj (separator last : List Char) {entries : List (String × Json)}
    (h : ∀ e ∈ entries, Spells depth (text e.2) e.2) (hgap : ∀ c ∈ gap, isSpace c = true)
    (hsep : ∀ c ∈ separator, isSpace c = true) (hlast : ∀ c ∈ last, isSpace c = true)
    (hne : entries ≠ []) : Spells (depth + 1)
      ('{' :: joined gap (last ++ ['}']) (entries.map (entryText separator text)))
      (.obj entries) := by
  refine .of_succ (List.cons_ne_nil _ _) fun fuel rest hf _ => ?_
  rw [List.length_cons] at hf
  exact readValue_obj (readEntries_joined h hgap hsep hlast hne (by omega))

end Spells

-- Both texts of a value, the indented one and the compact one, are read as the value.
theorem Rereads.spells (h : Rereads depth v) :
    (∀ level, Spells depth (prettyChars level v) v) ∧ Spells depth (compactChars v) v := by
  induction h with
  | null => exact ⟨fun _ => .null, .null⟩
  | bool b => exact ⟨fun _ => .keyword b, .keyword b⟩
  | num h => exact ⟨fun _ => .number h, .number h⟩
  | str text => exact ⟨fun _ => .quoted text, .quoted text⟩
  | @arr depth items h ih =>
      cases items with
      | nil => exact ⟨fun _ => .emptyArr, .emptyArr⟩
      | cons v vs =>
          refine ⟨fun level => ?_, ?_⟩
          · rw [prettyChars, prettyItems_eq level (List.cons_ne_nil v vs)]
            exact .arr _ (fun w hw => (ih w hw).1 _) (isSpace_of_mem_newLine _)
              (isSpace_of_mem_newLine _) (List.cons_ne_nil v vs)
          · rw [compactChars, compactItems_eq]
            exact .arr [] (fun w hw => (ih w hw).2) nofun nofun (List.cons_ne_nil v vs)
  | @obj depth entries h ih =>
      cases entries with
      | nil => exact ⟨fun _ => .emptyObj, .emptyObj⟩
      | cons e es =>
          refine ⟨fun level => ?_, ?_⟩
          · rw [prettyChars, prettyEntries_eq level (List.cons_ne_nil e es)]
            have hafter : ∀ c ∈ [' '], isSpace c := List.forall_mem_singleton.mpr rfl
            exact .obj [' '] _ (fun f hf => (ih f hf).1 _) (isSpace_of_mem_newLine _) hafter
              (isSpace_of_mem_newLine _) (List.cons_ne_nil e es)
          · rw [compactChars, compactEntries_eq]
            exact .obj [] [] (fun f hf => (ih f hf).2) nofun nofun nofun (List.cons_ne_nil e es)

theorem Rereads.isRead (h : Rereads depth v) : IsRead depth v := h.spells.1

end Spiderworks.Json
