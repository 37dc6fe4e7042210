import Mathlib.Data.List.Forall2

namespace Spiderworks

variable {α β γ ε : Type} {x : Except ε α} {b : β}

theorem bind_eq_ok_iff {f : α → Except ε β} :
    (x >>= f) = .ok b ↔ ∃ a, x = .ok a ∧ f a = .ok b := by
  cases x with
  | error e => exact iff_of_false nofun nofun
  | ok a => simp [bind, Except.bind]

theorem bind_eq_error_iff {e : ε} {f : α → Except ε β} :
    (x >>= f) = .error e ↔ x = .error e ∨ ∃ a, x = .ok a ∧ f a = .error e := by
  cases x with
  | error e' => simp [bind, Except.bind]
  | ok a => simp [bind, Except.bind]

theorem map_eq_error_iff {e : ε} {f : α → β} : x.map f = .error e ↔ x = .error e := by
  cases x <;> simp [Except.map]

theorem map_eq_ok_iff {f : α → β} : x.map f = .ok b ↔ ∃ a, x = .ok a ∧ f a = b := by
  cases x with
  | error e => exact iff_of_false nofun nofun
  | ok a => simp [Except.map]

theorem map_map (x : Except ε α) (f : α → β) (g : β → γ) :
    (x.map f).map g = x.map fun a => g (f a) := by
  cases x <;> rfl

variable {f : α → Except ε β} {xs : List α} {ys : List β}

theorem mapM_eq_ok_iff : xs.mapM f = .ok ys ↔ List.Forall₂ (fun x y => f x = .ok y) xs ys := by
  induction xs generalizing ys with
  | nil => simp [pure, Except.pure, eq_comm]
  | cons x xs ih =>
      simp only [List.mapM_cons, bind_eq_ok_iff, List.forall₂_cons_left_iff, ih]
      simp only [pure, Except.pure, Except.ok.injEq]
      exact ⟨fun ⟨y, hy, ys, hys, h⟩ => ⟨y, ys, hy, hys, h.symm⟩,
        fun ⟨y, ys, hy, hys, h⟩ => ⟨y, hy, ys, hys, h.symm⟩⟩

theorem exists_ok_of_mapM {x : α} (h : xs.mapM f = .ok ys) (hx : x ∈ xs) : ∃ y, f x = .ok y := by
  replace h := mapM_eq_ok_iff.mp h
  induction h with
  | nil => cases hx
  | cons hfirst _ ih =>
      rcases List.mem_cons.mp hx with rfl | hx
      · exact ⟨_, hfirst⟩
      · exact ih hx

theorem exists_of_mem_mapM {y : β} (h : xs.mapM f = .ok ys) (hy : y ∈ ys) :
    ∃ x ∈ xs, f x = .ok y := by
  replace h := mapM_eq_ok_iff.mp h
  induction h with
  | nil => cases hy
  | cons hfirst _ ih =>
      rcases List.mem_cons.mp hy with rfl | hy
      · exact ⟨_, List.mem_cons_self, hfirst⟩
      · obtain ⟨x, hx, hok⟩ := ih hy
        exact ⟨x, List.mem_cons_of_mem _ hx, hok⟩

-- When there is only one way to fail, and somewhere it happens, this is how the whole fails.
theorem mapM_eq_error {e : ε} (h : ∀ x ∈ xs, f x = .error e ∨ ∃ y, f x = .ok y)
    (hx : ∃ x ∈ xs, f x = .error e) : xs.mapM f = .error e := by
  induction xs with
  | nil => simp at hx
  | cons x xs ih =>
      rw [List.mapM_cons]
      rcases h x List.mem_cons_self with hfirst | ⟨y, hfirst⟩
      · rw [hfirst]
        rfl
      · have hrest : ∃ z ∈ xs, f z = .error e := by
          obtain ⟨z, hz, hfails⟩ := hx
          rcases List.mem_cons.mp hz with rfl | hz
          · rw [hfirst] at hfails
            cases hfails
          · exact ⟨z, hz, hfails⟩
        rw [hfirst, ih (fun z hz => h z (List.mem_cons_of_mem x hz)) hrest]
        rfl

end Spiderworks
