import Mathlib.Logic.Relation
import Spiderworks.Proofs.Fallible
import Spiderworks.XPath.Evaluation

namespace Spiderworks.XPath

variable {o : Outline} {f : Focus} {n m : Nat} {ns ms : List Nat}

-- ### Steps

theorem keepFrom_sublist {test : Focus → Eval Bool} {size i : Nat}
    (h : keepFrom test size i ns = .ok ms) : ms.Sublist ns := by
  induction ns generalizing i ms with
  | nil =>
      cases h
      exact List.Sublist.refl _
  | cons n rest ih =>
      obtain ⟨kept, -, h⟩ := bind_eq_ok_iff.mp h
      obtain ⟨others, hothers, h⟩ := bind_eq_ok_iff.mp h
      cases h
      have hrest := ih hothers
      split
      · exact hrest.cons_cons n
      · exact hrest.cons n

theorem keepAll_subset {ps : List Expr} (h : keepAll o ps ns = .ok ms) : ms ⊆ ns := by
  induction ps generalizing ns with
  | nil =>
      cases h
      exact List.Subset.refl _
  | cons p rest ih =>
      rw [keepAll] at h
      obtain ⟨kept, hkept, h⟩ := bind_eq_ok_iff.mp h
      exact List.Subset.trans (ih h) (keepFrom_sublist hkept).subset

theorem mem_of_mem_eraseReps (h : m ∈ ns.eraseReps) : m ∈ ns := by
  have hloop (kept : List Nat) (first : Nat) (rest : List Nat)
      (h : m ∈ List.eraseRepsBy.loop (· == ·) first rest kept) :
      m ∈ first :: rest ∨ m ∈ kept := by
    induction rest generalizing first kept with
    | nil =>
        rcases List.mem_cons.mp (List.mem_reverse.mp h) with rfl | h
        · exact .inl List.mem_cons_self
        · exact .inr h
    | cons next rest ih =>
        rw [List.eraseRepsBy.loop] at h
        split at h
        · rcases ih kept first h with h | h
          · rcases List.mem_cons.mp h with rfl | h
            · exact .inl List.mem_cons_self
            · exact .inl (List.mem_cons_of_mem _ (List.mem_cons_of_mem _ h))
          · exact .inr h
        · rcases ih (first :: kept) next h with h | h
          · exact .inl (List.mem_cons_of_mem _ h)
          · rcases List.mem_cons.mp h with rfl | h
            · exact .inl List.mem_cons_self
            · exact .inr h
  cases ns with
  | nil => cases h
  | cons first rest => exact (hloop [] first rest h).resolve_right List.not_mem_nil

theorem mem_of_mem_inOrder (h : m ∈ inOrder ns) : m ∈ ns :=
  List.mem_mergeSort.mp (mem_of_mem_eraseReps h)

-- Where a step finds nodes in document order, nothing is left to be sorted.
theorem walk_of_pairwise {steps : List Step} {found : List (List Nat)}
    (h : ns.mapM (s.nodesFrom o) = .ok found) (hsorted : found.flatten.Pairwise (· ≤ ·)) :
    walk o (s :: steps) ns = walk o steps found.flatten.eraseReps := by
  have hle : found.flatten.Pairwise fun a b => decide (a ≤ b) = true :=
    hsorted.imp decide_eq_true
  rw [walk, h, ← List.mergeSort_of_pairwise hle]
  rfl

def Step.axis : Step → Axis
  | .mk axis _ _ => axis

-- One of the steps leads from a node to another one.
def LeadsTo (o : Outline) (steps : List Step) (n m : Nat) : Prop :=
  ∃ s ∈ steps, m ∈ s.axis.nodes o n

theorem exists_of_mem_walk {steps : List Step} (h : walk o steps ns = .ok ms) (hm : m ∈ ms) :
    ∃ n ∈ ns, Relation.ReflTransGen (LeadsTo o steps) n m := by
  induction steps generalizing ns with
  | nil =>
      cases h
      exact ⟨m, hm, .refl⟩
  | cons s rest ih =>
      rw [walk] at h
      obtain ⟨found, hfound, h⟩ := bind_eq_ok_iff.mp h
      obtain ⟨k, hk, hrest⟩ := ih h
      obtain ⟨l, hl, hk⟩ := List.mem_flatten.mp (mem_of_mem_inOrder hk)
      obtain ⟨n, hn, hfrom⟩ := exists_of_mem_mapM hfound hl
      have hfirst : k ∈ s.axis.nodes o n := by
        obtain ⟨axis, test, predicates⟩ := s
        rw [Step.nodesFrom] at hfrom
        exact (List.mem_filter.mp (keepAll_subset hfrom hk)).1
      have hmore : ∀ i j, LeadsTo o rest i j → LeadsTo o (s :: rest) i j := fun i j ⟨t, ht, hj⟩ =>
        ⟨t, List.mem_cons_of_mem s ht, hj⟩
      have hrest := Relation.ReflTransGen.mono hmore _ _ hrest
      exact ⟨n, hn, .head ⟨s, List.mem_cons_self, hfirst⟩ hrest⟩

-- ### Values

theorem asNodes_eq_ok {v : Value} (h : v.asNodes = .ok ns) : v = .nodes ns := by
  cases v <;> cases h
  rfl

-- The value, if there is one, is not a set of nodes.
def Scalar (x : Eval Value) : Prop := ∀ ns, x ≠ .ok (.nodes ns)

namespace Scalar

theorem of_bind {α : Type} {x : Eval α} {next : α → Eval Value} (h : ∀ a, Scalar (next a)) :
    Scalar (x >>= next) := by
  intro ns heq
  obtain ⟨a, -, ha⟩ := bind_eq_ok_iff.mp heq
  exact h a ns ha

theorem one {args : List Value} {next : Value → Eval Value} (h : ∀ a, Scalar (next a)) :
    Scalar (one args next) := by
  unfold XPath.one
  split
  · exact h _
  · exact fun _ => nofun

theorem texts {args : List Value} {next : List Char → List Char → Value}
    (h : ∀ s t ns, next s t ≠ .nodes ns) : Scalar (texts o args next) := by
  unfold XPath.texts two
  split
  · exact fun ns heq => h _ _ ns (Except.ok.inj heq)
  · exact fun _ => nofun

theorem textOr {args : List Value} {next : List Char → Value} (h : ∀ s ns, next s ≠ .nodes ns) :
    Scalar (textOr o f args next) :=
  of_bind fun _ ns heq => h _ ns (Except.ok.inj heq)

theorem nameOf (args : List Value) : Scalar (nameOf o f args) := by
  refine of_bind fun v => of_bind fun ns => ?_
  split <;> exact fun _ => nofun

theorem substring (args : List Value) : Scalar (substring o args) := by
  unfold XPath.substring
  split <;> exact fun _ => nofun

end Scalar

-- No function gives nodes, and no operator does but one.
theorem scalar_call (name : String) (args : List Value) : Scalar (call o f name args) := by
  have given (b : Bool) (v : Value) (hv : ∀ ns, v ≠ .nodes ns) :
      Scalar (if b then .ok v else .error .argumentCount) := by
    intro ns heq
    split at heq
    · exact hv ns (Except.ok.inj heq)
    · cases heq
  unfold call
  split
  · exact given _ _ (fun _ => nofun)
  · exact given _ _ (fun _ => nofun)
  · exact .one fun _ => .of_bind fun _ _ => nofun
  · exact .nameOf args
  · exact .nameOf args
  · exact .of_bind fun _ _ => nofun
  · exact .textOr fun _ _ => nofun
  · intro ns heq
    split at heq <;> cases heq
  · exact .texts fun _ _ _ => nofun
  · exact .texts fun _ _ _ => nofun
  · exact .texts fun _ _ _ => nofun
  · exact .texts fun _ _ _ => nofun
  · exact .substring args
  · exact .textOr fun _ _ => nofun
  · exact .textOr fun _ _ => nofun
  · split <;> exact fun _ => nofun
  · exact .one fun _ _ => nofun
  · exact .one fun _ _ => nofun
  · exact given _ _ (fun _ => nofun)
  · exact given _ _ (fun _ => nofun)
  · exact .of_bind fun _ _ => nofun
  · exact .one fun _ => .of_bind fun _ _ => nofun
  · exact .one fun _ _ => nofun
  · exact .one fun _ _ => nofun
  · exact .one fun _ _ => nofun
  · exact fun _ => nofun

theorem arithmetic_ne_nodes (op : Operator) (a b : Value) : arithmetic o op a b ≠ .nodes ns := by
  cases op <;> exact nofun

-- What an operator gives that is not a union.
theorem scalar_binary {op : Operator} (hop : op ≠ .union) (left right : Expr) :
    Scalar ((Expr.binary op left right).value o f) := by
  rw [Expr.value]
  refine .of_bind fun a => ?_
  split
  · split
    · exact fun _ => nofun
    · exact .of_bind fun _ _ => nofun
  · split
    · exact .of_bind fun _ _ => nofun
    · exact fun _ => nofun
  · exact absurd rfl hop
  · exact .of_bind fun _ ns heq => arithmetic_ne_nodes op a _ (Except.ok.inj heq)

-- How an expression comes by its nodes.
inductive Gives (o : Outline) (f : Focus) : Expr → List Nat → Prop
  | root : Gives o f .root [0]
  | context : Gives o f .context [f.node]
  | union {left right : Expr} {ks ls : List Nat} : Gives o f left ks → Gives o f right ls →
      Gives o f (.binary .union left right) (inOrder (ks ++ ls))
  | filter {e predicate : Expr} {ks ns : List Nat} : Gives o f e ks → ns.Sublist ks →
      Gives o f (.filter e predicate) ns
  | path {start : Expr} {steps : List Step} {ks ns : List Nat} : Gives o f start ks →
      walk o steps ks = .ok ns → Gives o f (.path start steps) ns

theorem gives_of_value (e : Expr) {ns : List Nat} (h : e.value o f = .ok (.nodes ns)) :
    Gives o f e ns := by
  cases e with
  | root =>
      cases h
      exact .root
  | context =>
      cases h
      exact .context
  | number | text | «variable» => cases h
  | call name args =>
      rw [Expr.value] at h
      exact absurd h (Scalar.of_bind (fun _ => scalar_call name _) ns)
  | binary op left right =>
      by_cases hop : op = .union
      · subst hop
        rw [Expr.value] at h
        obtain ⟨a, ha, h⟩ := bind_eq_ok_iff.mp h
        obtain ⟨b, hb, h⟩ := bind_eq_ok_iff.mp h
        obtain ⟨ks, hks, h⟩ := bind_eq_ok_iff.mp h
        obtain ⟨ls, hls, h⟩ := bind_eq_ok_iff.mp h
        cases h
        rw [asNodes_eq_ok hks] at ha
        rw [asNodes_eq_ok hls] at hb
        exact .union (gives_of_value left ha) (gives_of_value right hb)
      · exact absurd h (scalar_binary hop left right ns)
  | negative e =>
      rw [Expr.value] at h
      obtain ⟨v, -, h⟩ := bind_eq_ok_iff.mp h
      cases h
  | filter e predicate =>
      rw [Expr.value] at h
      obtain ⟨v, hv, h⟩ := bind_eq_ok_iff.mp h
      obtain ⟨ks, hks, h⟩ := bind_eq_ok_iff.mp h
      obtain ⟨kept, hkept, h⟩ := bind_eq_ok_iff.mp h
      cases h
      rw [asNodes_eq_ok hks] at hv
      exact .filter (gives_of_value e hv) (keepFrom_sublist hkept)
  | path start steps =>
      rw [Expr.value] at h
      obtain ⟨v, hv, h⟩ := bind_eq_ok_iff.mp h
      obtain ⟨ks, hks, h⟩ := bind_eq_ok_iff.mp h
      obtain ⟨found, hfound, h⟩ := bind_eq_ok_iff.mp h
      cases h
      rw [asNodes_eq_ok hks] at hv
      exact .path (gives_of_value start hv) hfound
termination_by structural e

end Spiderworks.XPath
