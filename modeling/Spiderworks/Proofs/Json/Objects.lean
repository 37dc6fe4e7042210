import Mathlib.Data.List.TakeWhile
import Spiderworks.Json.Reader
import Spiderworks.Proofs.Fallible

namespace Spiderworks.Json

open Spiderworks.Text

variable {s t rest : List Char} {fuel depth word dropped : Nat} {negative : Bool} {e : Int}
  {n : Number}

-- ### What is left

theorem skipSpace_suffix (s : List Char) : skipSpace s <:+ s := List.dropWhile_suffix _

theorem suffix_of_skipSpace {c : Char} (h : skipSpace s = c :: rest) : rest <:+ s :=
  (List.suffix_cons c rest).trans (h ▸ skipSpace_suffix s)

theorem readQuoted_suffix {state : Scan} {acc : List Char}
    (h : readQuoted state acc s = .ok (t, rest)) : rest <:+ s := by
  induction s generalizing state acc with
  | nil => cases state <;> cases h
  | cons c s ih =>
      -- every branch ends here or goes on behind `c`
      refine List.IsSuffix.trans ?_ (List.suffix_cons c s)
      unfold readQuoted at h
      cases state <;> dsimp only at h <;> (repeat' split at h) <;>
        first
          | exact ih h
          | cases h <;> exact List.suffix_rfl

theorem readWord_suffix {v w : Json} {expected : List Char}
    (h : readWord v expected s = .ok (w, rest)) : w = v ∧ rest <:+ s := by
  induction expected generalizing s with
  | nil =>
      cases h
      exact ⟨rfl, List.suffix_rfl⟩
  | cons c expected ih =>
      cases s with
      | nil => cases h
      | cons d s =>
          rw [readWord] at h
          split at h
          · exact ⟨(ih h).1, (ih h).2.trans (List.suffix_cons d s)⟩
          · cases h

theorem takeWord_suffix (word : Nat) (s : List Char) : (takeWord word s).2 <:+ s := by
  induction s generalizing word with
  | nil => exact List.suffix_rfl
  | cons c s ih =>
      rw [takeWord]
      split
      · exact (ih _).trans (List.suffix_cons c s)
      · exact List.suffix_rfl

-- A number is made of what has been read, and nothing more is taken.
theorem bind_ofParts {r : List Char}
    (h : (do let n ← ofParts negative word e; return (n, r)) = .ok (n, rest)) : rest = r := by
  obtain ⟨m, -, hm⟩ := bind_eq_ok_iff.mp h
  cases hm
  rfl

theorem readExponent_suffix (h : readExponent negative word e s = .ok (n, rest)) :
    rest <:+ s := by
  unfold readExponent at h
  dsimp only at h
  -- there is a sign or none, and digits behind it
  (repeat' split at h) <;>
    first
      | cases h
      | exact bind_ofParts h ▸ (List.dropWhile_suffix _).trans (List.suffix_cons _ _)
      | exact bind_ofParts h ▸ List.dropWhile_suffix _

theorem readTail_suffix (h : readTail negative word e s = .ok (n, rest)) : rest <:+ s := by
  unfold readTail at h
  split at h
  · split at h
    · exact (readExponent_suffix h).trans (List.suffix_cons _ _)
    · exact bind_ofParts h ▸ List.suffix_rfl
  · exact bind_ofParts h ▸ List.suffix_rfl

theorem readFraction_suffix (h : readFraction negative word e s = .ok (n, rest)) :
    rest <:+ s := by
  unfold readFraction at h
  split at h
  · exact (readTail_suffix h).trans ((List.dropWhile_suffix _).trans (takeWord_suffix word s))
  · split at h <;> cases h

theorem readRest_suffix (h : readRest negative word dropped s = .ok (n, rest)) :
    rest <:+ s := by
  unfold readRest at h
  split at h
  · exact (readFraction_suffix h).trans (List.suffix_cons _ _)
  · split at h
    · exact (readExponent_suffix h).trans (List.suffix_cons _ _)
    · split at h
      · cases h
        exact List.suffix_rfl
      · exact bind_ofParts h ▸ List.suffix_rfl
  · split at h
    · cases h
      exact List.suffix_rfl
    · exact bind_ofParts h ▸ List.suffix_rfl

theorem readMagnitude_suffix (h : readMagnitude negative s = .ok (n, rest)) : rest <:+ s := by
  unfold readMagnitude at h
  split at h
  · cases h
  · split at h
    · cases h
    · exact (readRest_suffix h).trans (List.suffix_cons _ _)
  · split at h
    · exact (readRest_suffix h).trans (((List.dropWhile_suffix _).trans (takeWord_suffix _ _)).trans
        (List.suffix_cons _ _))
    · cases h

-- ### Values

-- What a value leaves of a text. An object stands between two braces.
structure Left (s : List Char) (v : Json) (rest : List Char) : Prop where
  suffix : rest <:+ s
  braces : ∀ es, v = .obj es → ∃ r, skipSpace s = '{' :: r ∧ '}' :: rest <:+ r

theorem Left.of_suffix {v : Json} (h : rest <:+ s) (hv : ∀ es, v ≠ .obj es) : Left s v rest :=
  ⟨h, fun es he => absurd he (hv es)⟩

-- The entries of an object come with the brace behind them.
structure Leaves (fuel : Nat) : Prop where
  value : ∀ depth s v rest, readValue fuel depth s = .ok (v, rest) → Left s v rest
  items : ∀ depth s vs rest, readItems fuel depth s = .ok (vs, rest) → rest <:+ s
  entries : ∀ depth s es rest, readEntries fuel depth s = .ok (es, rest) → '}' :: rest <:+ s

namespace Leaves

theorem readItems {vs : List Json} (ih : Leaves fuel)
    (h : readItems (fuel + 1) depth s = .ok (vs, rest)) : rest <:+ s := by
  rw [Json.readItems] at h
  obtain ⟨⟨v, r⟩, hv, h⟩ := bind_eq_ok_iff.mp h
  have hr := (ih.value _ _ _ _ hv).suffix
  dsimp only at h
  split at h
  · cases h
  · rename_i hs
    cases h
    exact (suffix_of_skipSpace hs).trans hr
  · rename_i hs
    obtain ⟨⟨ws, r'⟩, hw, h⟩ := bind_eq_ok_iff.mp h
    cases h
    exact ((ih.items _ _ _ _ hw).trans (suffix_of_skipSpace hs)).trans hr
  · cases h

theorem readEntries {es : List (String × Json)} (ih : Leaves fuel)
    (h : readEntries (fuel + 1) depth s = .ok (es, rest)) : '}' :: rest <:+ s := by
  rw [Json.readEntries] at h
  split at h
  · cases h
  · rename_i r hs
    obtain ⟨⟨key, r⟩, hkey, h⟩ := bind_eq_ok_iff.mp h
    have hr := (readQuoted_suffix hkey).trans (suffix_of_skipSpace hs)
    dsimp only at h
    split at h
    · cases h
    · rename_i hs'
      obtain ⟨⟨v, r'⟩, hv, h⟩ := bind_eq_ok_iff.mp h
      have hr' := ((ih.value _ _ _ _ hv).suffix.trans (suffix_of_skipSpace hs')).trans hr
      dsimp only at h
      split at h
      · cases h
      · rename_i hs''
        cases h
        exact (hs'' ▸ skipSpace_suffix r').trans hr'
      · rename_i hs''
        obtain ⟨⟨more, r''⟩, hmore, h⟩ := bind_eq_ok_iff.mp h
        cases h
        exact ((ih.entries _ _ _ _ hmore).trans (suffix_of_skipSpace hs'')).trans hr'
      · cases h
    · cases h
  · cases h

theorem readValue {v : Json} (ih : Leaves fuel)
    (h : readValue (fuel + 1) depth s = .ok (v, rest)) : Left s v rest := by
  rw [Json.readValue] at h
  split at h
  · cases h
  · rename_i c r hs
    have hr := suffix_of_skipSpace hs
    have word {w : Json} {expected : List Char} (h : readWord w expected r = .ok (v, rest))
        (hw : ∀ es, w ≠ .obj es) : Left s v rest := by
      obtain ⟨rfl, hrest⟩ := readWord_suffix h
      exact .of_suffix (hrest.trans hr) hw
    split at h
    · exact word h nofun
    split at h
    · exact word h nofun
    split at h
    · exact word h nofun
    split at h
    · obtain ⟨⟨text, r'⟩, hq, h⟩ := bind_eq_ok_iff.mp h
      cases h
      exact .of_suffix ((readQuoted_suffix hq).trans hr) nofun
    split at h
    · obtain ⟨⟨n, r'⟩, hn, h⟩ := bind_eq_ok_iff.mp h
      cases h
      exact .of_suffix ((readMagnitude_suffix hn).trans hr) nofun
    split at h
    · obtain ⟨⟨n, r'⟩, hn, h⟩ := bind_eq_ok_iff.mp h
      cases h
      exact .of_suffix ((readMagnitude_suffix hn).trans (hs ▸ skipSpace_suffix s)) nofun
    split at h
    · split at h
      · cases h
      split at h
      · rename_i hs'
        cases h
        exact .of_suffix ((suffix_of_skipSpace hs').trans hr) nofun
      · obtain ⟨⟨vs, r'⟩, hvs, h⟩ := bind_eq_ok_iff.mp h
        cases h
        exact .of_suffix (((ih.items _ _ _ _ hvs).trans (skipSpace_suffix r)).trans hr) nofun
    split at h
    · rename_i hc
      have braces (h : '}' :: rest <:+ r) : Left s v rest :=
        ⟨((List.suffix_cons '}' rest).trans h).trans hr, fun es _ => ⟨r, hc ▸ hs, h⟩⟩
      split at h
      · cases h
      split at h
      · rename_i hs'
        cases h
        exact braces (hs' ▸ skipSpace_suffix r)
      · obtain ⟨⟨es, r'⟩, hes, h⟩ := bind_eq_ok_iff.mp h
        cases h
        exact braces ((ih.entries _ _ _ _ hes).trans (skipSpace_suffix r))
    · cases h

end Leaves

theorem leaves (fuel : Nat) : Leaves fuel := by
  induction fuel with
  | zero => exact ⟨nofun, nofun, nofun⟩
  | succ fuel ih =>
      exact ⟨fun _ _ _ _ => ih.readValue, fun _ _ _ _ => ih.readItems,
        fun _ _ _ _ => ih.readEntries⟩

-- ### Whole texts

-- No other value settles into an object.
theorem settled_eq_obj {v : Json} {es : List (String × Json)} (h : settled v = .obj es) :
    ∃ es', v = .obj es' := by
  cases v <;> first | exact ⟨_, rfl⟩ | cases h

theorem read?_eq_some_iff {text : String} {v : Json} :
    read? text = some v ↔ readChars text.toList = .ok v := by
  rw [read?, read]
  cases readChars text.toList with
  | error e => exact ⟨nofun, nofun⟩
  | ok w =>
      constructor
      · rintro ⟨⟩
        rfl
      · rintro ⟨⟩
        rfl

-- A text is one value, with nothing but space behind it.
theorem exists_of_readChars {v : Json} (h : readChars s = .ok v) :
    ∃ raw rest, readValue (fuelFor s) depthLimit s = .ok (raw, rest) ∧ skipSpace rest = [] ∧
      settled raw = v := by
  unfold readChars at h
  obtain ⟨⟨raw, rest⟩, hraw, h⟩ := bind_eq_ok_iff.mp h
  dsimp only at h
  split at h
  · rename_i hspace
    exact ⟨raw, rest, hraw, List.isEmpty_iff.mp hspace, Except.ok.inj h⟩
  · cases h

-- A text that is an object, and has no space at its ends, begins and ends with a brace.
theorem braces_of_read {es : List (String × Json)} (h : readChars s = .ok (.obj es))
    (hhead : ∀ c, s.head? = some c → isSpace c = false)
    (hlast : ∀ c, s.getLast? = some c → isSpace c = false) :
    s.head? = some '{' ∧ s.getLast? = some '}' := by
  obtain ⟨v, rest, hv, hspace, hsettled⟩ := exists_of_readChars h
  obtain ⟨es', rfl⟩ := settled_eq_obj hsettled
  obtain ⟨r, hr, hrest⟩ := ((leaves _).value _ _ _ _ hv).braces es' rfl
  have hs : s = '{' :: r := by
    cases s with
    | nil => cases hr
    | cons c s =>
        rwa [skipSpace, List.dropWhile_cons_of_neg (by simp [hhead c rfl])] at hr
  refine ⟨by rw [hs]; rfl, ?_⟩
  obtain ⟨before, hbefore⟩ := hrest.trans (hs ▸ List.suffix_cons '{' r)
  have hend : s.getLast? = ('}' :: rest).getLast? := by
    rw [← hbefore, List.getLast?_append, List.getLast?_cons, Option.some_or]
  cases hrl : rest.getLast? with
  | none => rw [hend, List.getLast?_eq_none_iff.mp hrl, List.getLast?_singleton]
  | some c =>
      -- what is left is space
      have hc : isSpace c = true :=
        List.dropWhile_eq_nil_iff.mp hspace c (List.mem_of_getLast? hrl)
      have hne := hlast c (by rw [hend, List.getLast?_cons, hrl]; rfl)
      rw [hc] at hne
      cases hne

end Spiderworks.Json
