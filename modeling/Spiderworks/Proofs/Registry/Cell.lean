namespace Spiderworks

namespace Registry

-- The calls that change the registry.
inductive Call where
  | register (spider : Int) (execution : String)
  | attach (spider : Int) (execution : String) (pid : Option Nat)
  | beginStop (spider : Int)
  | beginFinish (spider : Int) (execution : String)
  | remove (spider : Int) (execution : String)
  deriving DecidableEq, Repr

-- What the caller learns: nothing, whether the call has done something, or the execution that a
-- request to stop is granted for and whether it is the first such request.
inductive Answer where
  | nothing
  | done (success : Bool)
  | ticket (granted : Option (String × Bool))
  deriving DecidableEq, Repr

def Call.spider : Call → Int
  | .register a _ | .attach a _ _ | .beginStop a | .beginFinish a _ | .remove a _ => a

-- The two claims to the end of a run: a request to stop that is the first, and the task of the run.
def isClaim : Call × Answer → Bool
  | (.beginStop _, .ticket (some (_, true))) | (.beginFinish _ _, .done true) => true
  | _ => false

def isRemoval : Call × Answer → Bool
  | (.remove _ _, .done true) => true
  | _ => false

end Registry

open Registry (Call Answer)

-- ### The automaton of one spider

inductive Cell where
  | idle
  | running (execution : String) (pid : Option Nat)
  | stopping (execution : String) (pid : Option Nat)
  | finishing (execution : String) (pid : Option Nat)
  deriving DecidableEq, Repr

namespace Cell

def execution? : Cell → Option String
  | .idle => none
  | .running x _ | .stopping x _ | .finishing x _ => some x

def setPid (pid : Option Nat) : Cell → Cell
  | .idle => .idle
  | .running x _ => .running x pid
  | .stopping x _ => .stopping x pid
  | .finishing x _ => .finishing x pid

def isRunning : Cell → Bool
  | .running _ _ => true
  | _ => false

def answer (cell : Cell) : Call → Answer × Cell
  | .register _ x =>
    match cell with
    | .idle => (.done true, .running x none)
    | cell => (.done false, cell)
  | .attach _ x pid =>
    (.nothing, if cell.execution? = some x then cell.setPid pid else cell)
  | .beginStop _ =>
    match cell with
    | .running x pid => (.ticket (some (x, true)), .stopping x pid)
    | .stopping x pid => (.ticket (some (x, false)), .stopping x pid)
    | cell => (.ticket none, cell)
  | .beginFinish _ x =>
    match cell with
    | .running y pid =>
      if y = x then (.done true, .finishing y pid) else (.done false, .running y pid)
    | cell => (.done false, cell)
  | .remove _ x =>
    if cell.execution? = some x then (.done true, .idle) else (.done false, cell)

def perform (cell : Cell) (calls : List Call) : Cell :=
  calls.foldl (fun cell c => (cell.answer c).2) cell

def trace (cell : Cell) : List Call → List (Call × Answer)
  | [] => []
  | c :: rest => (c, (cell.answer c).1) :: trace (cell.answer c).2 rest

-- ### One claim for each registration

-- How many claims may still be made before the registration is taken out.
def unclaimed (cell : Cell) : Nat := if cell.isRunning then 1 else 0

variable {cell : Cell}

theorem unclaimed_answer (hc : cell ≠ .idle) (c : Call)
    (hr : Registry.isRemoval (c, (cell.answer c).1) = false) :
    (cell.answer c).2 ≠ .idle ∧
      (cell.answer c).2.unclaimed + (if Registry.isClaim (c, (cell.answer c).1) then 1 else 0) ≤
        cell.unclaimed := by
  cases c with
  | register a x => cases cell <;> first | exact absurd rfl hc | exact ⟨nofun, Nat.le_refl _⟩
  | attach a x pid =>
      simp only [answer]
      split
      · cases cell <;> first | exact absurd rfl hc | exact ⟨nofun, Nat.le_refl _⟩
      · exact ⟨hc, Nat.le_refl _⟩
  | beginStop a =>
      cases cell with
      | idle => exact absurd rfl hc
      | _ => exact ⟨nofun, Nat.le_refl _⟩
  | beginFinish a x =>
      cases cell with
      | idle => exact absurd rfl hc
      | running y pid =>
          simp only [answer]
          split <;> exact ⟨nofun, Nat.le_refl _⟩
      | _ => exact ⟨nofun, Nat.le_refl _⟩
  | remove a x =>
      simp only [answer] at hr ⊢
      split
      · rename_i hx
        rw [if_pos hx] at hr
        cases hr
      · exact ⟨hc, Nat.le_refl _⟩

-- Every claim uses up what `unclaimed` counts, and only a new registration gives it back.
theorem unclaimed_perform (hc : cell ≠ .idle) (calls : List Call)
    (hr : ∀ entry ∈ cell.trace calls, Registry.isRemoval entry = false) :
    cell.perform calls ≠ .idle ∧
      (cell.perform calls).unclaimed + (cell.trace calls).countP Registry.isClaim ≤
        cell.unclaimed := by
  induction calls generalizing cell with
  | nil => exact ⟨hc, Nat.le_refl _⟩
  | cons c rest ih =>
      rw [trace, List.forall_mem_cons] at hr
      obtain ⟨hne, hle⟩ := unclaimed_answer hc c hr.1
      obtain ⟨hne', hle'⟩ := ih hne hr.2
      refine ⟨hne', ?_⟩
      rw [trace, List.countP_cons]
      change (perform (cell.answer c).2 rest).unclaimed + _ ≤ _
      omega

end Cell

end Spiderworks
