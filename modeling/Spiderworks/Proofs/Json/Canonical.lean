import Spiderworks.Proofs.Json.Compact

namespace Spiderworks

-- All doubles in a value.
mutual
def Json.doubles : Json → List Float
  | .num (.double x) => [x]
  | .arr items => Json.doublesOf items
  | .obj entries => Json.doublesOfEntries entries
  | .null | .bool _ | .num (.whole _) | .str _ => []
termination_by structural v => v

def Json.doublesOf : List Json → List Float
  | [] => []
  | v :: vs => v.doubles ++ Json.doublesOf vs
termination_by structural vs => vs

def Json.doublesOfEntries : List (String × Json) → List Float
  | [] => []
  | (_, v) :: es => v.doubles ++ Json.doublesOfEntries es
termination_by structural es => es
end

-- Each double in the value is read back from its own text.
def Json.DoublesReread (v : Json) : Prop := ∀ x ∈ v.doubles, (Number.double x).Rereads

def Number.Kept (n : Number) : Prop := ∀ k, n = .whole k → Number.isExact k = true

namespace Json

open Spiderworks.Text

variable {s rest : List Char} {fuel depth word dropped : Nat} {negative : Bool} {e : Int}
  {n : Number} {v : Json}

theorem doublesOf_eq (items : List Json) : doublesOf items = items.flatMap doubles := by
  induction items with
  | nil => rfl
  | cons v vs ih => rw [doublesOf, ih, List.flatMap_cons]

theorem doublesOfEntries_eq (entries : List (String × Json)) :
    doublesOfEntries entries = entries.flatMap fun e => e.2.doubles := by
  induction entries with
  | nil => rfl
  | cons e es ih => rw [doublesOfEntries, ih, List.flatMap_cons]

theorem DoublesReread.item {items : List Json} (h : DoublesReread (.arr items)) (hv : v ∈ items) :
    v.DoublesReread := fun x hx =>
  h x (by rw [doubles, doublesOf_eq]; exact List.mem_flatMap.mpr ⟨v, hv, hx⟩)

theorem DoublesReread.entry {entries : List (String × Json)} {f : String × Json}
    (h : DoublesReread (.obj entries)) (hf : f ∈ entries) : f.2.DoublesReread := fun x hx =>
  h x (by rw [doubles, doublesOfEntries_eq]; exact List.mem_flatMap.mpr ⟨f, hf, hx⟩)

theorem doublesReread_of_check (h : v.doubles.all Number.rereads = true) : v.DoublesReread :=
  fun x hx => Number.rereads_of_check (List.all_eq_true.mp h x hx)

-- ### Numbers

theorem kept_double (x : Float) : (Number.double x).Kept := nofun

theorem kept_ofParts (h : ofParts negative word e = .ok n) : n.Kept := by
  unfold ofParts at h
  split at h
  · cases h
  · cases h
    exact kept_double _

theorem kept_bind_ofParts {r : List Char}
    (h : (do let n ← ofParts negative word e; return (n, r)) = .ok (n, rest)) : n.Kept := by
  obtain ⟨m, hm, heq⟩ := bind_eq_ok_iff.mp h
  cases heq
  exact kept_ofParts hm

theorem readExponent_kept (h : readExponent negative word e s = .ok (n, rest)) : n.Kept := by
  unfold readExponent at h
  dsimp only at h
  (repeat' split at h) <;>
    first
      | cases h
      | exact kept_bind_ofParts h

theorem readTail_kept (h : readTail negative word e s = .ok (n, rest)) : n.Kept := by
  unfold readTail at h
  split at h
  · split at h
    · exact readExponent_kept h
    · exact kept_bind_ofParts h
  · exact kept_bind_ofParts h

theorem readFraction_kept (h : readFraction negative word e s = .ok (n, rest)) : n.Kept := by
  unfold readFraction at h
  split at h
  · exact readTail_kept h
  · split at h <;> cases h

theorem takeWord_lt (hw : word < Nat.pow 2 64) (s : List Char) :
    (takeWord word s).1 < Nat.pow 2 64 := by
  induction s generalizing word with
  | nil => exact hw
  | cons c s ih =>
      rw [takeWord]
      split
      · rename_i hc
        rw [Bool.and_eq_true, decide_eq_true_eq] at hc
        exact ih hc.2
      · exact hw

theorem kept_exactOrDouble (hw : word < Nat.pow 2 64) : (exactOrDouble negative word).Kept := by
  have h64 : (Nat.pow 2 64 : Int) = Int.pow 2 64 := rfl
  have h63 : (Nat.pow 2 63 : Int) = Int.pow 2 63 := rfl
  have hle : Int.pow 2 63 ≤ Int.pow 2 64 := by decide
  intro k hk
  rw [Number.isExact, Bool.and_eq_true, decide_eq_true_eq, decide_eq_true_eq]
  unfold exactOrDouble at hk
  split at hk
  · split at hk
    · cases hk
      omega
    · cases hk
  · cases hk
    omega

theorem readRest_kept (hw : word < Nat.pow 2 64)
    (h : readRest negative word dropped s = .ok (n, rest)) : n.Kept := by
  unfold readRest at h
  split at h
  · exact readFraction_kept h
  · split at h
    · exact readExponent_kept h
    · split at h
      · cases h
        exact kept_exactOrDouble hw
      · exact kept_bind_ofParts h
  · split at h
    · cases h
      exact kept_exactOrDouble hw
    · exact kept_bind_ofParts h

-- A digit is far from filling the word.
theorem digitValue_lt (c : Char) : digitValue c < Nat.pow 2 64 :=
  Nat.lt_of_le_of_lt (Nat.sub_le ..) (Nat.lt_trans c.val.toNat_lt (by decide))

theorem readMagnitude_kept (h : readMagnitude negative s = .ok (n, rest)) : n.Kept := by
  unfold readMagnitude at h
  split at h
  · cases h
  · split at h
    · cases h
    · exact readRest_kept (by decide) h
  · split at h
    · exact readRest_kept (takeWord_lt (digitValue_lt _) _) h
    · cases h

-- ### Values

-- What the reader can make of a text when it may open so many containers.
inductive Bounded : Nat → Json → Prop where
  | null {depth : Nat} : Bounded depth .null
  | bool {depth : Nat} (b : Bool) : Bounded depth (.bool b)
  | num {depth : Nat} {n : Number} (h : n.Kept) : Bounded depth (.num n)
  | str {depth : Nat} (text : String) : Bounded depth (.str text)
  | arr {depth : Nat} {items : List Json} (h : ∀ v ∈ items, Bounded depth v) :
      Bounded (depth + 1) (.arr items)
  | obj {depth : Nat} {entries : List (String × Json)} (h : ∀ e ∈ entries, Bounded depth e.2) :
      Bounded (depth + 1) (.obj entries)

structure Bounds (fuel : Nat) : Prop where
  value : ∀ depth s v rest, readValue fuel depth s = .ok (v, rest) → Bounded depth v
  items : ∀ depth s vs rest, readItems fuel depth s = .ok (vs, rest) → ∀ v ∈ vs, Bounded depth v
  entries : ∀ depth s es rest, readEntries fuel depth s = .ok (es, rest) →
    ∀ e ∈ es, Bounded depth e.2

namespace Bounds

theorem readItems {vs : List Json} (ih : Bounds fuel)
    (h : readItems (fuel + 1) depth s = .ok (vs, rest)) : ∀ v ∈ vs, Bounded depth v := by
  rw [Json.readItems] at h
  obtain ⟨⟨v, r⟩, hv, h⟩ := bind_eq_ok_iff.mp h
  have hfirst := ih.value _ _ _ _ hv
  dsimp only at h
  split at h
  · cases h
  · cases h
    exact List.forall_mem_singleton.mpr hfirst
  · obtain ⟨⟨ws, r'⟩, hw, h⟩ := bind_eq_ok_iff.mp h
    cases h
    exact List.forall_mem_cons.mpr ⟨hfirst, ih.items _ _ _ _ hw⟩
  · cases h

theorem readEntries {es : List (String × Json)} (ih : Bounds fuel)
    (h : readEntries (fuel + 1) depth s = .ok (es, rest)) : ∀ e ∈ es, Bounded depth e.2 := by
  rw [Json.readEntries] at h
  split at h
  · cases h
  · obtain ⟨⟨key, r⟩, -, h⟩ := bind_eq_ok_iff.mp h
    dsimp only at h
    split at h
    · cases h
    · obtain ⟨⟨v, r'⟩, hv, h⟩ := bind_eq_ok_iff.mp h
      have hfirst := ih.value _ _ _ _ hv
      dsimp only at h
      split at h
      · cases h
      · cases h
        exact List.forall_mem_singleton.mpr hfirst
      · obtain ⟨⟨more, r''⟩, hmore, h⟩ := bind_eq_ok_iff.mp h
        cases h
        exact List.forall_mem_cons.mpr ⟨hfirst, ih.entries _ _ _ _ hmore⟩
      · cases h
    · cases h
  · cases h

-- A container takes one from the depth that is left for its parts.
theorem readValue (ih : Bounds fuel) (h : readValue (fuel + 1) depth s = .ok (v, rest)) :
    Bounded depth v := by
  rw [Json.readValue] at h
  split at h
  · cases h
  · split at h
    · exact (readWord_suffix h).1 ▸ .null
    split at h
    · exact (readWord_suffix h).1 ▸ .bool true
    split at h
    · exact (readWord_suffix h).1 ▸ .bool false
    split at h
    · obtain ⟨⟨text, r⟩, -, h⟩ := bind_eq_ok_iff.mp h
      cases h
      exact .str _
    split at h
    · obtain ⟨⟨n, r⟩, hn, h⟩ := bind_eq_ok_iff.mp h
      cases h
      exact .num (readMagnitude_kept hn)
    split at h
    · obtain ⟨⟨n, r⟩, hn, h⟩ := bind_eq_ok_iff.mp h
      cases h
      exact .num (readMagnitude_kept hn)
    split at h
    · split at h
      · cases h
      obtain ⟨depth, rfl⟩ := Nat.exists_eq_succ_of_ne_zero ‹¬depth = 0›
      split at h
      · cases h
        exact .arr (List.forall_mem_nil _)
      · obtain ⟨⟨vs, r⟩, hvs, h⟩ := bind_eq_ok_iff.mp h
        cases h
        exact .arr (ih.items _ _ _ _ hvs)
    split at h
    · split at h
      · cases h
      obtain ⟨depth, rfl⟩ := Nat.exists_eq_succ_of_ne_zero ‹¬depth = 0›
      split at h
      · cases h
        exact .obj (List.forall_mem_nil _)
      · obtain ⟨⟨es, r⟩, hes, h⟩ := bind_eq_ok_iff.mp h
        cases h
        exact .obj (ih.entries _ _ _ _ hes)
    · cases h

end Bounds

theorem bounds (fuel : Nat) : Bounds fuel := by
  induction fuel with
  | zero => exact ⟨nofun, nofun, nofun⟩
  | succ fuel ih =>
      exact ⟨fun _ _ _ _ => ih.readValue, fun _ _ _ _ => ih.readItems,
        fun _ _ _ _ => ih.readEntries⟩

-- ### Settled values

-- Settling takes away the keys that come again, and adds no depth and no number.
theorem Bounded.printable (h : Bounded depth v) (hd : (settled v).DoublesReread) :
    Printable depth (settled v) := by
  induction h with
  | null => exact .null
  | bool b => exact .bool b
  | @num depth n h =>
      cases n with
      | whole k => exact .whole (h k rfl)
      | double x => exact .double (hd x (List.mem_singleton_self x))
  | str text => exact .str text
  | @arr depth items h ih =>
      rw [settled, settledItems_eq] at hd ⊢
      refine .arr fun w hw => ?_
      have hitem := hd.item hw
      obtain ⟨v, hv, rfl⟩ := List.mem_map.mp hw
      exact ih v hv hitem
  | @obj depth entries h ih =>
      rw [settled, settledEntries_eq] at hd ⊢
      refine .obj (Entries.nodup_ofList _) fun f hf => ?_
      have hentry := hd.entry hf
      obtain ⟨g, hg, heq⟩ := Entries.exists_of_mem_ofList hf
      obtain ⟨e, he, rfl⟩ := List.mem_map.mp hg
      rw [← heq] at hentry ⊢
      exact ih e he hentry

theorem printable_of_readChars (h : readChars s = .ok v) (hd : v.DoublesReread) :
    Printable depthLimit v := by
  obtain ⟨raw, rest, hraw, -, rfl⟩ := exists_of_readChars h
  exact ((bounds _).value _ _ _ _ hraw).printable hd

theorem printable_of_read? {text : String} (h : read? text = some v) (hd : v.DoublesReread) :
    Printable depthLimit v := printable_of_readChars (read?_eq_some_iff.mp h) hd

end Json

end Spiderworks
