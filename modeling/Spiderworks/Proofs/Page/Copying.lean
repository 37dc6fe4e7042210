import Mathlib.Data.List.Nodup
import Spiderworks.Page.Copy

namespace Spiderworks.Page

-- ### The copy of a page, by recursion

namespace Copy

-- Labelled by paths in the page. `path` leads to the node itself, `index` is the number of the
-- first of the siblings.
mutual
def ofNode (path : List Nat) : Node → List Copy
  | .element e children => [.element path e.name e.pairs (ofNodes path 0 children)]
  | .text s => [.text s]
  | .contents _ | .comment _ => []
termination_by structural n => n

def ofNodes (path : List Nat) (index : Nat) : List Node → List Copy
  | [] => []
  | n :: ns => ofNode (path ++ [index]) n ++ ofNodes path (index + 1) ns
termination_by structural ns => ns
end

def ofPage (p : Page) : Copy := .element [] p.root.name p.root.pairs (ofNodes [] 0 p.children)

theorem ofNodes_append (path : List Nat) (index : Nat) (ns ms : List Node) :
    ofNodes path index (ns ++ ms) =
      ofNodes path index ns ++ ofNodes path (index + ns.length) ms := by
  induction ns generalizing index with
  | nil => rfl
  | cons n rest ih =>
      rw [List.cons_append, ofNodes, ih, ofNodes, List.append_assoc, List.length_cons,
        Nat.add_right_comm, ← Nat.add_assoc]

end Copy

-- What of a page is copied: its elements and texts, without the contents of templates.
mutual
def Node.kept : Node → List Node
  | .element e children => [.element e (keptOf children)]
  | .text s => [.text s]
  | .contents _ | .comment _ => []
termination_by structural n => n

def keptOf : List Node → List Node
  | [] => []
  | n :: ns => n.kept ++ keptOf ns
termination_by structural ns => ns
end

def kept (p : Page) : Page := { p with children := keptOf p.children }

-- The paths of elements in a page, each with the path of the same element in what is kept.
mutual
def pairsOf (path place : List Nat) : Node → List (List Nat × List Nat)
  | .element _ children => (path, place) :: pairsOfAll path 0 place 0 children
  | .contents _ | .text _ | .comment _ => []
termination_by structural n => n

def pairsOfAll (path : List Nat) (index : Nat) (place : List Nat) (k : Nat) :
    List Node → List (List Nat × List Nat)
  | [] => []
  | n :: ns => pairsOf (path ++ [index]) (place ++ [k]) n ++
      pairsOfAll path (index + 1) place (k + n.kept.length) ns
termination_by structural ns => ns
end

-- ### Changes in one place

namespace Copy

variable {c : Copy} {children more : List Copy} {place q : List Nat} {k : Nat}
  {f g : List Copy → List Copy}

theorem childrenAt?_text (place : List Nat) (s : String) :
    (text s).childrenAt? place = none := by
  cases place <;> rfl

theorem childrenAt?_changeAt (h : c.childrenAt? place = some children) :
    (c.changeAt f place).childrenAt? place = some (f children) := by
  induction place generalizing c with
  | nil =>
      cases c with
      | element label name attributes here =>
          cases h
          rfl
      | text s => cases h
  | cons k place ih =>
      cases c with
      | element label name attributes here =>
          obtain ⟨child, hchild, h⟩ := Option.bind_eq_some_iff.mp h
          rw [changeAt, childrenAt?, List.getElem?_modify_eq, hchild]
          exact ih h
      | text s => cases h

-- An element without children is still without them when something is added elsewhere.
theorem childrenAt?_changeAt_of_ne (h : c.childrenAt? q = some []) (hne : q ≠ place) :
    (c.changeAt (· ++ more) place).childrenAt? q = some [] := by
  induction place generalizing c q with
  | nil =>
      cases c with
      | element label name attributes here =>
          cases q with
          | nil => exact absurd rfl hne
          | cons k q =>
              obtain ⟨child, hchild, h⟩ := Option.bind_eq_some_iff.mp h
              have hlt := (List.getElem?_eq_some_iff.mp hchild).1
              rw [changeAt, childrenAt?, List.getElem?_append_left hlt, hchild]
              exact h
      | text s =>
          rw [childrenAt?_text] at h
          cases h
  | cons i place ih =>
      cases c with
      | element label name attributes here =>
          cases q with
          | nil =>
              cases h
              rw [changeAt, List.modify_nil]
              rfl
          | cons k q =>
              obtain ⟨child, hchild, hq⟩ := Option.bind_eq_some_iff.mp h
              by_cases hik : i = k
              · subst hik
                rw [changeAt, childrenAt?, List.getElem?_modify_eq, hchild]
                exact ih hq fun heq => hne (heq ▸ rfl)
              · rw [changeAt, childrenAt?, List.getElem?_modify_ne _ _ hik, hchild]
                exact hq
      | text s =>
          rw [childrenAt?_text] at h
          cases h

theorem childrenAt?_append_singleton (place : List Nat) (k : Nat) (c : Copy) :
    c.childrenAt? (place ++ [k]) =
      (c.childrenAt? place).bind fun children => children[k]?.bind (childrenAt? []) := by
  induction place generalizing c with
  | nil => cases c <;> rfl
  | cons i place ih =>
      cases c with
      | element label name attributes here =>
          rw [List.cons_append, childrenAt?, childrenAt?, Option.bind_assoc]
          exact congrArg _ (funext fun child => ih child)
      | text s => rfl

theorem changeAt_id (place : List Nat) (c : Copy) : c.changeAt (fun cs => cs) place = c := by
  induction place generalizing c with
  | nil => cases c <;> rfl
  | cons k place ih =>
      cases c with
      | element label name attributes here =>
          rw [changeAt, show changeAt (fun cs => cs) place = id from funext ih, List.modify_id]
      | text s => rfl

theorem changeAt_changeAt (f g : List Copy → List Copy) (place : List Nat) (c : Copy) :
    (c.changeAt f place).changeAt g place = c.changeAt (g ∘ f) place := by
  induction place generalizing c with
  | nil => cases c <;> rfl
  | cons k place ih =>
      cases c with
      | element label name attributes here =>
          rw [changeAt, changeAt, changeAt, List.modify_modify_eq]
          exact congrArg (fun h => Copy.element label name attributes (here.modify k h))
            (funext fun child => ih child)
      | text s => rfl

theorem changeAt_append_singleton (f : List Copy → List Copy) (place : List Nat) (k : Nat)
    (c : Copy) : c.changeAt f (place ++ [k]) = c.changeAt (·.modify k (changeAt f [])) place := by
  induction place generalizing c with
  | nil => cases c <;> rfl
  | cons i place ih =>
      cases c with
      | element label name attributes here =>
          rw [List.cons_append, changeAt, changeAt]
          exact congrArg (fun h => Copy.element label name attributes (here.modify i h))
            (funext fun child => ih child)
      | text s => rfl

-- Two changes that do the same to the children that are there.
theorem changeAt_congr (h : c.childrenAt? place = some children) (hfg : f children = g children) :
    c.changeAt f place = c.changeAt g place := by
  induction place generalizing c with
  | nil =>
      cases c with
      | element label name attributes here =>
          cases h
          rw [changeAt, changeAt, hfg]
      | text s => rfl
  | cons k place ih =>
      cases c with
      | element label name attributes here =>
          obtain ⟨child, hchild, h⟩ := Option.bind_eq_some_iff.mp h
          obtain ⟨hlt, rfl⟩ := List.getElem?_eq_some_iff.mp hchild
          rw [changeAt, changeAt, List.modify_eq_take_cons_drop hlt,
            List.modify_eq_take_cons_drop hlt, ih h]
      | text s => rfl

-- What was added is in front of what is added later.
theorem changeAt_append (h : c.childrenAt? place = some children) (child : Copy) :
    (c.append place child).changeAt (· ++ more) place =
      c.changeAt (· ++ child :: more) place := by
  rw [append, changeAt_changeAt]
  exact changeAt_congr h (List.append_assoc children [child] more)

theorem childrenAt?_append (h : c.childrenAt? place = some children) (child : Copy) :
    (c.append place child).childrenAt? place = some (children ++ [child]) :=
  childrenAt?_changeAt h

end Copy

-- ### Going through one element

variable {j : Pending} {d : Draft} {stack : List Pending} {index k : Nat} {ns : List Node}
  {children : List Copy}

-- The children of an element, those among them that are elements without children of their own.
def bareOf (place : List Nat) (k : Nat) : List Node → List Copy
  | [] => []
  | .element e _ :: ns => .element (place ++ [k]) e.name e.pairs [] :: bareOf place (k + 1) ns
  | .text s :: ns => .text s :: bareOf place (k + 1) ns
  | .contents _ :: ns | .comment _ :: ns => bareOf place k ns

-- What is left to do for them.
def pendingOf (path : List Nat) (index : Nat) (place : List Nat) (k : Nat) :
    List Node → List Pending
  | [] => []
  | .element _ children :: ns =>
    ⟨path ++ [index], place ++ [k], children⟩ :: pendingOf path (index + 1) place (k + 1) ns
  | .text _ :: ns => pendingOf path (index + 1) place (k + 1) ns
  | .contents _ :: ns | .comment _ :: ns => pendingOf path (index + 1) place k ns

def Pending.pair (j : Pending) : List Nat × List Nat := (j.path, j.place)

theorem Draft.copyChildren_eq (h : d.copy.childrenAt? j.place = some children)
    (hk : children.length = k) : d.copyChildren j index stack ns =
      (⟨d.copy.changeAt (· ++ bareOf j.place k ns) j.place,
          d.pairs ++ (pendingOf j.path index j.place k ns).map Pending.pair⟩,
        (pendingOf j.path index j.place k ns).reverse ++ stack) := by
  induction ns generalizing d stack index k children with
  | nil => simp [copyChildren, bareOf, pendingOf, Copy.changeAt_id]
  | cons n rest ih =>
      have hcount : d.copy.count j.place = k := by rw [Copy.count, h, Option.elim_some, hk]
      have hlength (child : Copy) : (children ++ [child]).length = k + 1 := by simp [hk]
      cases n with
      | element e below =>
          rw [copyChildren, copyChild, hcount]
          dsimp only
          rw [ih (Copy.childrenAt?_append h _) (hlength _), Copy.changeAt_append h]
          simp [bareOf, pendingOf, Pending.pair]
      | text s =>
          rw [copyChildren, copyChild]
          dsimp only
          rw [ih (Copy.childrenAt?_append h _) (hlength _), Copy.changeAt_append h]
          rfl
      | contents | comment => exact ih h hk

-- An element as it is when all below it was copied.
def Pending.fill (c : Copy) (j : Pending) : Copy :=
  c.changeAt (· ++ Copy.ofNodes j.place 0 (keptOf j.children)) j.place

theorem foldl_fill_bareOf {c : Copy} {path place : List Nat}
    (h : c.childrenAt? place = some children) (hk : children.length = k) :
    (pendingOf path index place k ns).reverse.foldl Pending.fill
        (c.changeAt (· ++ bareOf place k ns) place) =
      c.changeAt (· ++ Copy.ofNodes place k (keptOf ns)) place := by
  induction ns generalizing c index k children with
  | nil => rfl
  | cons n rest ih =>
      have hlength (child : Copy) : (children ++ [child]).length = k + 1 := by simp [hk]
      cases n with
      | element e below =>
          rw [bareOf, pendingOf, List.reverse_cons, List.foldl_append, ← Copy.changeAt_append h,
            ih (Copy.childrenAt?_append h _) (hlength _), List.foldl_cons, List.foldl_nil,
            Pending.fill, Copy.changeAt_append_singleton, Copy.changeAt_append h,
            Copy.changeAt_changeAt]
          refine Copy.changeAt_congr h ?_
          -- the copy of this child is the one behind those that were there
          have hlt : k < (children ++ Copy.element (place ++ [k]) e.name e.pairs [] ::
              Copy.ofNodes place (k + 1) (keptOf rest)).length := by simp [← hk]
          rw [Function.comp_apply, List.modify_eq_take_cons_drop hlt]
          subst hk
          simp [Copy.changeAt, keptOf, Node.kept, Copy.ofNodes, Copy.ofNode]
      | text s =>
          rw [bareOf, pendingOf, ← Copy.changeAt_append h,
            ih (Copy.childrenAt?_append h _) (hlength _), Copy.changeAt_append h]
          rfl
      | contents | comment => exact ih h hk

-- ### Going through all of them

-- Whoever is on the stack has a copy of its own, without children so far.
structure Ready (c : Copy) (stack : List Pending) : Prop where
  empty : ∀ j ∈ stack, c.childrenAt? j.place = some []
  distinct : (stack.map (·.place)).Nodup

theorem exists_of_mem_pendingOf {path place : List Nat} (hj : j ∈ pendingOf path index place k ns) :
    ∃ m label name attributes, j.place = place ++ [k + m] ∧
      (bareOf place k ns)[m]? = some (.element label name attributes []) := by
  induction ns generalizing index k with
  | nil => cases hj
  | cons n rest ih =>
      have later {more : List Copy} {first : Copy} (h : ∃ m label name attributes,
          j.place = place ++ [k + 1 + m] ∧ more[m]? = some (.element label name attributes [])) :
          ∃ m label name attributes, j.place = place ++ [k + m] ∧
            (first :: more)[m]? = some (.element label name attributes []) := by
        obtain ⟨m, label, name, attributes, hplace, hm⟩ := h
        exact ⟨m + 1, label, name, attributes, by rw [hplace, Nat.add_assoc, Nat.add_comm 1], hm⟩
      cases n with
      | element e below =>
          rcases List.mem_cons.mp hj with rfl | hj
          · exact ⟨0, _, _, _, rfl, rfl⟩
          · exact later (ih hj)
      | text s => exact later (ih hj)
      | contents | comment => exact ih hj

theorem nodup_pendingOf (path : List Nat) (index : Nat) (place : List Nat) (k : Nat)
    (ns : List Node) : ((pendingOf path index place k ns).map (·.place)).Nodup := by
  induction ns generalizing index k with
  | nil => exact List.nodup_nil
  | cons n rest ih =>
      cases n with
      | element e below =>
          refine List.nodup_cons.mpr ⟨fun hmem => ?_, ih _ _⟩
          obtain ⟨j, hj, hplace⟩ := List.mem_map.mp hmem
          obtain ⟨m, -, -, -, hm, -⟩ := exists_of_mem_pendingOf hj
          have heq : [k] = [k + 1 + m] := List.append_cancel_left (hplace.symm.trans hm)
          have hlast := List.head_eq_of_cons_eq heq
          omega
      | text | contents | comment => exact ih _ _

theorem Ready.next {c : Copy} (h : Ready c (j :: stack)) :
    Ready (c.changeAt (· ++ bareOf j.place 0 j.children) j.place)
      ((pendingOf j.path 0 j.place 0 j.children).reverse ++ stack) := by
  obtain ⟨hempty, hdistinct⟩ := h
  have hj := hempty j List.mem_cons_self
  obtain ⟨hnot, hstack⟩ := List.nodup_cons.mp hdistinct
  constructor
  · intro i hi
    rcases List.mem_append.mp hi with hi | hi
    · obtain ⟨m, label, name, attributes, hplace, hm⟩ :=
        exists_of_mem_pendingOf (List.mem_reverse.mp hi)
      rw [hplace, Copy.childrenAt?_append_singleton, Copy.childrenAt?_changeAt hj, Nat.zero_add,
        Option.bind_some, List.nil_append, hm]
      rfl
    · refine Copy.childrenAt?_changeAt_of_ne (hempty i (List.mem_cons_of_mem _ hi)) fun heq => ?_
      exact hnot (List.mem_map.mpr ⟨i, hi, heq⟩)
  · rw [List.map_append, List.map_reverse]
    refine List.nodup_append.mpr ⟨List.nodup_reverse.mpr (nodup_pendingOf ..), hstack, ?_⟩
    -- before the step nothing stands in the places of the new ones
    rintro q hq q' hq' rfl
    obtain ⟨i, hi, rfl⟩ := List.mem_map.mp (List.mem_reverse.mp hq)
    obtain ⟨i', hi', hsame⟩ := List.mem_map.mp hq'
    obtain ⟨m, -, -, -, hplace, -⟩ := exists_of_mem_pendingOf hi
    have hthere := hempty i' (List.mem_cons_of_mem _ hi')
    rw [hsame, hplace, Copy.childrenAt?_append_singleton, hj] at hthere
    cases hthere

def Pending.pairs (j : Pending) : List (List Nat × List Nat) :=
  pairsOfAll j.path 0 j.place 0 j.children

theorem perm_pairsOfAll (path : List Nat) (index : Nat) (place : List Nat) (k : Nat)
    (ns : List Node) : (pairsOfAll path index place k ns).Perm
      ((pendingOf path index place k ns).map Pending.pair ++
        (pendingOf path index place k ns).flatMap Pending.pairs) := by
  induction ns generalizing index k with
  | nil => exact .nil
  | cons n rest ih =>
      cases n with
      | element e below =>
          refine .trans (.cons _ ((ih (index + 1) (k + 1)).append_left _)) (.cons _ ?_)
          exact List.perm_append_comm_assoc ..
      | text | contents | comment => exact ih _ _

-- Nothing that is put on the stack is ever gone through twice, and in the end all of it has been.
theorem Draft.run_eq (h : Ready d.copy stack) :
    (d.run stack).copy = stack.foldl Pending.fill d.copy ∧
      (d.run stack).pairs.Perm (d.pairs ++ stack.flatMap Pending.pairs) := by
  fun_induction Draft.run d stack with
  | case1 d => exact ⟨rfl, by simp⟩
  | case2 d j stack next ih =>
      have hj := h.empty j List.mem_cons_self
      have hnext : next = _ := copyChildren_eq hj rfl
      rw [hnext] at ih ⊢
      obtain ⟨hcopy, hpairs⟩ := ih h.next
      constructor
      · rw [hcopy, List.foldl_append, foldl_fill_bareOf hj rfl]
        rfl
      · have hbelow := perm_pairsOfAll j.path 0 j.place 0 j.children
        generalize pendingOf j.path 0 j.place 0 j.children = found at hpairs hbelow
        rw [List.flatMap_append, List.append_assoc, ← List.append_assoc (found.map _)] at hpairs
        refine hpairs.trans (.append_left _ (.append_right _ ?_))
        have hreverse := (List.reverse_perm found).flatMap_right Pending.pairs
        exact (hreverse.append_left _).trans hbelow.symm

-- ### The mirror of a page

theorem lookup_eq_some_iff {α β : Type} [BEq α] [LawfulBEq α] {entries : List (α × β)} {key : α}
    {value : β} (h : (entries.map (·.1)).Nodup) :
    entries.lookup key = some value ↔ (key, value) ∈ entries := by
  induction entries with
  | nil => simp
  | cons entry rest ih =>
      obtain ⟨first, found⟩ := entry
      obtain ⟨hnot, hrest⟩ := List.nodup_cons.mp h
      rw [List.lookup_cons, List.mem_cons, Prod.mk.injEq]
      by_cases hkey : key = first
      · subst hkey
        rw [beq_self_eq_true, Option.some.injEq]
        refine ⟨fun heq => .inl ⟨rfl, heq.symm⟩, fun hmem => ?_⟩
        rcases hmem with ⟨-, rfl⟩ | hmem
        · rfl
        · exact absurd (List.mem_map_of_mem (f := (·.1)) hmem) hnot
      · rw [beq_false_of_ne hkey, ih hrest]
        exact ⟨.inr, fun hmem => hmem.resolve_left fun heq => hkey heq.1⟩

theorem ready_start (p : Page) :
    Ready (.element [] p.root.name p.root.pairs []) [⟨[], [], p.children⟩] :=
  ⟨List.forall_mem_singleton.mpr rfl, List.nodup_singleton _⟩

theorem Mirror.copy_ofPage (p : Page) : (Mirror.ofPage p).copy = Copy.ofPage (kept p) :=
  (Draft.run_eq (d := ⟨_, [([], [])]⟩) (ready_start p)).1

theorem Mirror.forward_perm (p : Page) :
    (Mirror.ofPage p).forward.Perm (pairsOf [] [] (.element p.root p.children)) := by
  have hpairs := (Draft.run_eq (d := ⟨_, [([], [])]⟩) (ready_start p)).2
  rw [List.flatMap_cons, List.flatMap_nil, List.append_nil] at hpairs
  exact hpairs

end Spiderworks.Page
