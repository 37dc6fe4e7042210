import Mathlib.Data.List.Sort
import Spiderworks.Proofs.XPath.Nesting
import Spiderworks.Proofs.XPath.NodeSets

namespace Spiderworks.XPath

open Spiderworks.Page (Copy)

variable {o : Outline} {f : Focus} {n m : Nat} {ns ms : List Nat} {e : Expr} {s : Step}

-- ### Ascending numbers

theorem ascending_eraseReps (h : ns.Pairwise (· ≤ ·)) : ns.eraseReps.Pairwise (· < ·) := by
  -- What has been kept stands in reverse, and the number at hand is above all of it.
  have hloop (kept : List Nat) (first : Nat) (rest : List Nat)
      (hrest : (first :: rest).Pairwise (· ≤ ·)) (hkept : (first :: kept).Pairwise (· > ·)) :
      (List.eraseRepsBy.loop (· == ·) first rest kept).Pairwise (· < ·) := by
    induction rest generalizing first kept with
    | nil => exact List.pairwise_reverse.mpr hkept
    | cons next rest ih =>
        obtain ⟨hfirst, hrest⟩ := List.pairwise_cons.mp hrest
        rw [List.eraseRepsBy.loop]
        split
        · refine ih kept first (List.pairwise_cons.mpr ⟨fun m hm => ?_, hrest.of_cons⟩) hkept
          exact hfirst m (List.mem_cons_of_mem _ hm)
        · rename_i hne
          have hlt : first < next :=
            Nat.lt_of_le_of_ne (hfirst next List.mem_cons_self) (beq_eq_false_iff_ne.mp hne)
          refine ih (first :: kept) next hrest (List.pairwise_cons.mpr ⟨fun m hm => ?_, hkept⟩)
          rcases List.mem_cons.mp hm with rfl | hm
          · exact hlt
          · exact Nat.lt_trans ((List.pairwise_cons.mp hkept).1 m hm) hlt
  cases ns with
  | nil => exact List.Pairwise.nil
  | cons first rest => exact hloop [] first rest h (List.pairwise_singleton _ _)

theorem ascending_inOrder (ns : List Nat) : (inOrder ns).Pairwise (· < ·) := by
  refine ascending_eraseReps (List.Pairwise.imp of_decide_eq_true ?_)
  refine List.pairwise_mergeSort (fun a b c hab hbc => ?_) (fun a b => ?_) ns
  · exact decide_eq_true (Nat.le_trans (of_decide_eq_true hab) (of_decide_eq_true hbc))
  · simpa using Nat.le_total a b

theorem ascending_walk {steps : List Step} (hns : ns.Pairwise (· < ·))
    (h : walk o steps ns = .ok ms) : ms.Pairwise (· < ·) := by
  induction steps generalizing ns with
  | nil =>
      cases h
      exact hns
  | cons s rest ih =>
      rw [walk] at h
      obtain ⟨found, -, h⟩ := bind_eq_ok_iff.mp h
      exact ih (ascending_inOrder _) h

theorem ascending_value (e : Expr) (h : e.value o f = .ok (.nodes ns)) :
    ns.Pairwise (· < ·) := by
  have hgives := gives_of_value e h
  clear h
  induction hgives with
  | root | context => exact List.pairwise_singleton _ _
  | union => exact ascending_inOrder _
  | filter _ hkept ih => exact ih.sublist hkept
  | path _ hwalk ih => exact ascending_walk ih hwalk

-- ### Numbers of the outline

-- Parents are nodes of the outline, and no node ends behind the last one.
structure Outline.Closed (o : Outline) : Prop where
  parent : ∀ n, (o.row n).parent < o.rows.size
  finish : ∀ n, (o.row n).finish ≤ o.rows.size

namespace Outline.Closed

theorem lt_of_mem_span (ho : o.Closed) {k : Nat} (hm : m ∈ span k (o.row n).finish) :
    m < o.rows.size := by
  have hrange := List.mem_range'_1.mp hm
  have hfinish := ho.finish n
  omega

theorem lt_of_mem_children (ho : o.Closed) (hm : m ∈ o.children n) : m < o.rows.size :=
  ho.lt_of_mem_span (List.mem_filter.mp (List.mem_filter.mp hm).1).1

theorem lt_of_mem_siblings (ho : o.Closed) (hm : m ∈ o.siblings n) : m < o.rows.size := by
  unfold siblings at hm
  split at hm
  · cases hm
  · exact ho.lt_of_mem_children hm

theorem lt_of_mem_ancestorsFrom (ho : o.Closed) (fuel : Nat) (hm : m ∈ o.ancestorsFrom fuel n) :
    m < o.rows.size := by
  induction fuel generalizing n with
  | zero => cases hm
  | succ fuel ih =>
      rw [ancestorsFrom] at hm
      split at hm
      · cases hm
      · rcases List.mem_cons.mp hm with rfl | hm
        · exact ho.parent n
        · exact ih hm

theorem owner_lt (ho : o.Closed) (hn : n < o.rows.size) : o.owner n < o.rows.size := by
  unfold owner
  split
  · exact ho.parent n
  · exact hn

theorem lt_of_mem_axis (ho : o.Closed) (hn : n < o.rows.size) {a : Axis} (hm : m ∈ a.nodes o n) :
    m < o.rows.size := by
  have hdescendants (h : m ∈ if o.isAside n then [] else o.descendants n) : m < o.rows.size := by
    split at h
    · cases h
    · exact ho.lt_of_mem_span (List.mem_filter.mp h).1
  cases a with
  | ancestor => exact ho.lt_of_mem_ancestorsFrom _ hm
  | ancestorOrSelf =>
      rcases List.mem_cons.mp hm with rfl | hm
      · exact hn
      · exact ho.lt_of_mem_ancestorsFrom _ hm
  | «attribute» | «namespace» => exact ho.lt_of_mem_span (List.mem_filter.mp hm).1
  | child =>
      rw [Axis.nodes] at hm
      split at hm
      · cases hm
      · exact ho.lt_of_mem_children hm
  | descendant => exact hdescendants hm
  | descendantOrSelf =>
      rcases List.mem_cons.mp hm with rfl | hm
      · exact hn
      · exact hdescendants hm
  | following =>
      have hrange := List.mem_range'_1.mp (List.mem_filter.mp hm).1
      omega
  | followingSibling => exact ho.lt_of_mem_siblings (List.mem_filter.mp hm).1
  | parent =>
      rw [Axis.nodes] at hm
      split at hm
      · cases hm
      · rw [List.mem_singleton.mp hm]
        exact ho.parent n
  | preceding =>
      have hrange := List.mem_range'_1.mp (List.mem_filter.mp (List.mem_reverse.mp hm)).1
      have howner := ho.owner_lt hn
      omega
  | precedingSibling =>
      exact ho.lt_of_mem_siblings (List.mem_filter.mp (List.mem_reverse.mp hm)).1
  | itself =>
      rw [List.mem_singleton.mp hm]
      exact hn

theorem lt_of_leads (ho : o.Closed) (hn : n < o.rows.size) {steps : List Step}
    (h : Relation.ReflTransGen (LeadsTo o steps) n m) : m < o.rows.size := by
  induction h with
  | refl => exact hn
  | tail _ hlast ih =>
      obtain ⟨s, -, hlast⟩ := hlast
      exact ho.lt_of_mem_axis ih hlast

theorem lt_of_mem_value (ho : o.Closed) (hf : f.node < o.rows.size) (e : Expr)
    (h : e.value o f = .ok (.nodes ns)) (hm : m ∈ ns) : m < o.rows.size := by
  have hgives := gives_of_value e h
  clear h
  induction hgives generalizing m with
  | root =>
      rw [List.mem_singleton.mp hm]
      exact Nat.zero_lt_of_lt hf
  | context =>
      rw [List.mem_singleton.mp hm]
      exact hf
  | union _ _ ihleft ihright =>
      rcases List.mem_append.mp (mem_of_mem_inOrder hm) with hm | hm
      · exact ihleft hm
      · exact ihright hm
  | filter _ hkept ih => exact ih (hkept.subset hm)
  | path _ hwalk ih =>
      obtain ⟨k, hk, hleads⟩ := exists_of_mem_walk hwalk hm
      exact ho.lt_of_leads (ih hk) hleads

end Outline.Closed

-- ### The outline of a page

theorem parent_of_mem_attributeRows {parent next : Nat} {attributes : List (String × String)}
    {r : Row} (hr : r ∈ attributeRows parent next attributes) : r.parent = parent := by
  induction attributes generalizing next with
  | nil => cases hr
  | cons a rest ih =>
      rcases List.mem_cons.mp hr with rfl | hr
      · rfl
      · exact ih hr

-- A row of a copy belongs to the parent of the copy, or to another row of the copy.
mutual
theorem parent_of_mem_rows (parent next : Nat) (c : Copy) : ∀ r ∈ rows parent next c,
    r.parent = parent ∨ next ≤ r.parent ∧ r.parent < next + size c := by
  cases c with
  | element path name attributes children =>
      rw [size]
      refine List.forall_mem_cons.mpr ⟨.inl rfl, List.forall_mem_cons.mpr ⟨.inr ?_, ?_⟩⟩
      · dsimp only
        omega
      · refine List.forall_mem_append.mpr ⟨fun r hr => ?_, fun r hr => ?_⟩
        · rw [parent_of_mem_attributeRows hr]
          omega
        · have hbelow := parent_of_mem_rowsOf next (next + 2 + attributes.length) children r hr
          omega
  | text s => exact List.forall_mem_singleton.mpr (.inl rfl)
termination_by structural c

theorem parent_of_mem_rowsOf (parent next : Nat) (cs : List Copy) : ∀ r ∈ rowsOf parent next cs,
    r.parent = parent ∨ next ≤ r.parent ∧ r.parent < next + sizes cs := by
  cases cs with
  | nil => nofun
  | cons c rest =>
      rw [sizes]
      refine List.forall_mem_append.mpr ⟨fun r hr => ?_, fun r hr => ?_⟩
      · have hfirst := parent_of_mem_rows parent next c r hr
        omega
      · have hrest := parent_of_mem_rowsOf parent (next + size c) rest r hr
        omega
termination_by structural cs
end

-- A number that no row has stands for a node with nothing below it.
theorem Nested.closed {rs : List Row} {o : Outline} (h : Nested 0 rs) (ho : o.rows = rs.toArray)
    (hsome : 0 < rs.length) (hparent : ∀ r ∈ rs, r.parent < rs.length) : o.Closed := by
  constructor
  · intro n
    rw [row_eq ho, ho, List.size_toArray]
    cases hn : rs[n]? with
    | none => exact hsome
    | some r => exact hparent r (List.mem_of_getElem? hn)
  · intro n
    rw [row_eq ho, ho, List.size_toArray]
    cases hn : rs[n]? with
    | none => exact Nat.zero_le _
    | some r => exact Nat.le_trans (h.ends n r hn).2 (Nat.le_of_eq (Nat.zero_add _))

theorem Outline.Copies.closed {o : Outline} {p : Page} (ho : o.Copies p) : o.Closed := by
  refine (nested_ofPage p).closed ho (Nat.zero_lt_succ _) ?_
  rw [documentRows, List.length_cons, length_rows]
  refine List.forall_mem_cons.mpr ⟨Nat.zero_lt_succ _, fun r hr => ?_⟩
  have hr := parent_of_mem_rows 0 1 _ r hr
  omega

end Spiderworks.XPath
