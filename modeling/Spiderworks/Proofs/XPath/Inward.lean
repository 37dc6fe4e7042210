import Spiderworks.Proofs.XPath.Nesting
import Spiderworks.Proofs.XPath.NodeSets

namespace Spiderworks.XPath

-- Axes that lead nowhere but to a node itself and what is below it.
def Axis.isInward : Axis → Bool
  | .attribute | .child | .descendant | .descendantOrSelf | .namespace | .itself => true
  | _ => false

def Step.isInward : Step → Bool
  | .mk axis _ _ => axis.isInward

def Expr.isInward : Expr → Bool
  | .root => false
  | .binary op left right => op != .union || (left.isInward && right.isInward)
  | .filter e _ => e.isInward
  | .path start steps => start.isInward && steps.all Step.isInward
  | .context | .number _ | .text _ | .variable _ | .call _ _ | .negative _ => true
termination_by structural e => e

def Expr.isRooted : Expr → Bool
  | .root | .number _ | .text _ | .variable _ => true
  | .binary op left right => op == .union && left.isRooted && right.isRooted
  | .filter e _ => e.isRooted
  | .path start _ => start.isRooted
  | .context | .call _ _ | .negative _ => false
termination_by structural e => e

-- A node is at or below another one.
def Outline.Inside (o : Outline) (n m : Nat) : Prop := m = n ∨ n < m ∧ m < (o.row n).finish

variable {o : Outline} {f g : Focus} {n m k : Nat} {ns ms : List Nat} {e : Expr} {s : Step}

theorem Outline.Inside.trans (ho : o.Tree) (h : o.Inside n m) (h' : o.Inside m k) :
    o.Inside n k := by
  rcases h with rfl | ⟨hlt, hm⟩
  · exact h'
  · rcases h' with rfl | ⟨hlt', hk⟩
    · exact .inr ⟨hlt, hm⟩
    · exact .inr ⟨Nat.lt_trans hlt hlt', Nat.lt_of_lt_of_le hk (ho.ends n m hlt hm)⟩

-- ### Steps

theorem Outline.inside_of_mem_span (h : m ∈ span (n + 1) (o.row n).finish) : o.Inside n m := by
  have hrange := List.mem_range'_1.mp h
  exact .inr (by omega)

theorem inside_of_mem_axis {a : Axis} (ha : a.isInward = true) (hm : m ∈ a.nodes o n) :
    o.Inside n m := by
  have hself (h : m = n) : o.Inside n m := .inl h
  have hbelow (h : m ∈ o.descendants n) : o.Inside n m :=
    Outline.inside_of_mem_span (List.mem_filter.mp h).1
  cases a with
  | «attribute» | «namespace» => exact Outline.inside_of_mem_span (List.mem_filter.mp hm).1
  | child =>
      rw [Axis.nodes] at hm
      split at hm
      · cases hm
      · exact hbelow (List.mem_filter.mp hm).1
  | descendant =>
      rw [Axis.nodes] at hm
      split at hm
      · cases hm
      · exact hbelow hm
  | descendantOrSelf =>
      rcases List.mem_cons.mp hm with hm | hm
      · exact hself hm
      · split at hm
        · cases hm
        · exact hbelow hm
  | itself => exact hself (List.mem_singleton.mp hm)
  | ancestor | ancestorOrSelf | following | followingSibling | parent | preceding
  | precedingSibling => cases ha

theorem inside_of_mem_walk (ho : o.Tree) {steps : List Step}
    (hsteps : steps.all Step.isInward = true) (h : walk o steps ns = .ok ms) (hm : m ∈ ms) :
    ∃ n ∈ ns, o.Inside n m := by
  obtain ⟨n, hn, hleads⟩ := exists_of_mem_walk h hm
  refine ⟨n, hn, ?_⟩
  clear hm
  induction hleads with
  | refl => exact .inl rfl
  | tail _ hlast ih =>
      obtain ⟨⟨axis, test, predicates⟩, hs, hlast⟩ := hlast
      have hinward : axis.isInward = true := List.all_eq_true.mp hsteps _ hs
      exact ih.trans ho (inside_of_mem_axis hinward hlast)

-- ### Values

theorem inside_of_mem_value (ho : o.Tree) (e : Expr) (he : e.isInward = true)
    (h : e.value o f = .ok (.nodes ns)) (hm : m ∈ ns) : o.Inside f.node m := by
  have hgives := gives_of_value e h
  clear h
  induction hgives generalizing m with
  | root => cases he
  | context => exact .inl (List.mem_singleton.mp hm)
  | @union left right _ _ _ _ ihleft ihright =>
      obtain ⟨hleft, hright⟩ : left.isInward = true ∧ right.isInward = true := by
        simpa [Expr.isInward] using he
      rcases List.mem_append.mp (mem_of_mem_inOrder hm) with hm | hm
      · exact ihleft hleft hm
      · exact ihright hright hm
  | filter _ hkept ih =>
      rw [Expr.isInward] at he
      exact ih he (hkept.subset hm)
  | path _ hwalk ih =>
      rw [Expr.isInward, Bool.and_eq_true] at he
      obtain ⟨k, hk, hinside⟩ := inside_of_mem_walk ho he.2 hwalk hm
      exact (ih he.1 hk).trans ho hinside

-- An expression that begins at the root does not see where it is evaluated.
theorem value_eq_of_isRooted (e : Expr) (he : e.isRooted = true) : e.value o f = e.value o g := by
  cases e with
  | root | number | text | «variable» => rfl
  | binary op left right =>
      obtain ⟨⟨hop, hleft⟩, hright⟩ : (op = .union ∧ left.isRooted = true) ∧
          right.isRooted = true := by
        simpa [Expr.isRooted] using he
      rw [Expr.value, Expr.value, value_eq_of_isRooted left hleft,
        value_eq_of_isRooted right hright]
  | filter e predicate =>
      rw [Expr.isRooted] at he
      rw [Expr.value, Expr.value, value_eq_of_isRooted e he]
  | path start steps =>
      rw [Expr.isRooted] at he
      rw [Expr.value, Expr.value, value_eq_of_isRooted start he]
  | context | call | negative => cases he
termination_by structural e

end Spiderworks.XPath
