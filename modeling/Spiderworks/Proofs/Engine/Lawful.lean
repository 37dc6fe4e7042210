import Spiderworks.Proofs.Engine.History

namespace Spiderworks.History

def Claimed (log : List Event) (x : String) : Prop := ∃ j a, .claimed j a x ∈ log

def Granted (log : List Event) (x : String) : Prop :=
  ∃ k a t, .granted k a t ∈ log ∧ t.execution = x

-- The start has been recorded, so the run has its task.
def Recorded (log : List Event) (x : String) : Prop := ∃ i a, .begun i a x true ∈ log

def Freed (log : List Event) (x : String) : Prop := ∃ p a, .freed p a x ∈ log

def Finalised (log : List Event) (x : String) : Prop :=
  ∃ event ∈ log, event.isFinal = true ∧ event.execution = x

-- Somebody who wanted to stop the execution had waited long enough before it had a task.
def Overtaken (log : List Event) (x : String) : Prop :=
  ∃ before after k a t, log = before ++ .expired k a t :: after ∧ t.execution = x ∧
    ¬Recorded before x

-- What may come next. A start registers a new name and a new number once, when all executions of
-- the spider before it were freed, and enters its run once. A request is granted while nobody has
-- claimed the end of the run, and is the initiator when it is the first; a task claims the end of
-- its run while no request was granted. Who has a claim makes the final entry once, and frees the
-- registration after it; a start frees one that it could not enter.
def Allowed (log : List Event) : Event → Prop
  | .registered i a x n =>
      (∀ event ∈ log, event.party ≠ .start i) ∧ (∀ j b m, .registered j b x m ∉ log) ∧
        (∀ j b y, .registered j b y n ∉ log) ∧ ∀ j y m, .registered j a y m ∈ log → Freed log y
  | .begun i a x _ => (∃ n, .registered i a x n ∈ log) ∧ ∀ b y r, .begun i b y r ∉ log
  | .granted k a t =>
      (∀ event ∈ log, event.party ≠ .stop k) ∧ (∃ i, .registered i a t.execution t.number ∈ log) ∧
        ¬Claimed log t.execution ∧ (t.initiator = true ↔ ¬Granted log t.execution)
  | .expired k a t => .granted k a t ∈ log ∧ t.initiator = true
  | .claimed j a x =>
      (∀ event ∈ log, event.party ≠ .run j) ∧ (∃ i, .begun i a x true ∈ log) ∧ ¬Claimed log x ∧
        ¬Granted log x
  | .settled j a x e =>
      .claimed j a x ∈ log ∧ e.isStopped = false ∧ ∀ b y f, .settled j b y f ∉ log
  | .stopped k a x =>
      (∃ t, .granted k a t ∈ log ∧ t.initiator = true ∧ t.execution = x) ∧
        (∀ b y, .stopped k b y ∉ log) ∧ (Recorded log x ∨ Overtaken log x)
  | .freed (.start i) a x => ¬Freed log x ∧ .begun i a x false ∈ log
  | .freed (.run j) a x => ¬Freed log x ∧ ∃ e, .settled j a x e ∈ log
  | .freed (.stop k) a x => ¬Freed log x ∧ .stopped k a x ∈ log

inductive Lawful : List Event → Prop where
  | nil : Lawful []
  | concat {log : List Event} {event : Event} : Lawful log → Allowed log event →
      Lawful (log ++ [event])

variable {log more : List Event} {event : Event} {x y : String} {a b : Int} {i j k l m n : Nat}

-- ### One more event

@[simp] theorem claimed_concat :
    Claimed (log ++ [event]) x ↔ Claimed log x ∨ ∃ j a, event = .claimed j a x := by
  simp [Claimed, exists_or, eq_comm]

@[simp] theorem granted_concat :
    Granted (log ++ [event]) x ↔
      Granted log x ∨ ∃ k a t, event = .granted k a t ∧ t.execution = x := by
  simp [Granted, or_and_right, exists_or, eq_comm]

@[simp] theorem recorded_concat :
    Recorded (log ++ [event]) x ↔ Recorded log x ∨ ∃ i a, event = .begun i a x true := by
  simp [Recorded, exists_or, eq_comm]

@[simp] theorem freed_concat :
    Freed (log ++ [event]) x ↔ Freed log x ∨ ∃ p a, event = .freed p a x := by
  simp [Freed, exists_or, eq_comm]

@[simp] theorem finalised_concat :
    Finalised (log ++ [event]) x ↔
      Finalised log x ∨ event.isFinal = true ∧ event.execution = x := by
  simp [Finalised, or_and_right, exists_or]

theorem Overtaken.concat (h : Overtaken log x) : Overtaken (log ++ [event]) x := by
  obtain ⟨before, after, k, a, t, rfl, h⟩ := h
  exact ⟨before, after ++ [event], k, a, t, by simp, h⟩

-- ### Events of a lawful history

theorem Lawful.of_append (h : Lawful (log ++ more)) : Lawful log := by
  induction more using List.reverseRecOn with
  | nil => simpa using h
  | append_singleton more event ih =>
      rw [← List.append_assoc] at h
      generalize hlog : log ++ more ++ [event] = full at h
      cases h with
      | nil => simp at hlog
      | concat h _ =>
          obtain ⟨rfl, -⟩ := List.append_inj' hlog rfl
          exact ih h

theorem Lawful.allowed_last (h : Lawful (log ++ [event])) : Allowed log event := by
  generalize hlog : log ++ [event] = full at h
  cases h with
  | nil => simp at hlog
  | concat _ ha =>
      obtain ⟨rfl, hevent⟩ := List.append_inj' hlog rfl
      cases hevent
      exact ha

-- Every event was allowed when it came.
theorem Lawful.allowed_at (h : Lawful (log ++ event :: more)) : Allowed log event := by
  rw [List.append_cons] at h
  exact h.of_append.allowed_last

theorem Lawful.exists_allowed (h : Lawful log) (hm : event ∈ log) :
    ∃ before after, log = before ++ event :: after ∧ Lawful before ∧ Allowed before event := by
  obtain ⟨before, after, rfl⟩ := List.append_of_mem hm
  exact ⟨before, after, rfl, h.of_append, h.allowed_at⟩

-- An event that is only allowed while there is none of its kind.
theorem Lawful.unique {p : Event → Prop} {u v : Event} (h : Lawful log)
    (first : ∀ log event, Allowed log event → p event → ∀ older ∈ log, ¬p older)
    (hu : u ∈ log) (hv : v ∈ log) (pu : p u) (pv : p v) : u = v := by
  induction h with
  | nil => simp at hu
  | @concat log last _ ha ih =>
      simp only [List.mem_append, List.mem_singleton] at hu hv
      rcases hu with hu | rfl <;> rcases hv with hv | rfl
      · exact ih hu hv
      · exact absurd pu (first log _ ha pv _ hu)
      · exact absurd pv (first log _ ha pu _ hv)
      · rfl

theorem Lawful.registered_unique (h : Lawful log) (hi : .registered i a x m ∈ log)
    (hj : .registered j b x n ∈ log) : i = j ∧ a = b ∧ m = n := by
  have same := h.unique (p := fun e => ∃ i a n, e = .registered i a x n)
    (by rintro log _ ha ⟨i, a, n, rfl⟩ _ hm ⟨j, b, m, rfl⟩; exact ha.2.1 _ _ _ hm)
    hi hj ⟨_, _, _, rfl⟩ ⟨_, _, _, rfl⟩
  cases same
  exact ⟨rfl, rfl, rfl⟩

theorem Lawful.registered_of_start (h : Lawful log) (hi : .registered i a x m ∈ log)
    (hj : .registered i b y n ∈ log) : a = b ∧ x = y ∧ m = n := by
  have same := h.unique (p := fun e => ∃ a x n, e = .registered i a x n)
    (by rintro log _ ha ⟨a, x, n, rfl⟩ _ hm ⟨b, y, m, rfl⟩; exact ha.1 _ hm rfl)
    hi hj ⟨_, _, _, rfl⟩ ⟨_, _, _, rfl⟩
  cases same
  exact ⟨rfl, rfl, rfl⟩

theorem Lawful.registered_of_number (h : Lawful log) (hi : .registered i a x n ∈ log)
    (hj : .registered j b y n ∈ log) : x = y := by
  have same := h.unique (p := fun e => ∃ i a x, e = .registered i a x n)
    (by rintro log _ ha ⟨i, a, x, rfl⟩ _ hm ⟨j, b, y, rfl⟩; exact ha.2.2.1 _ _ _ hm)
    hi hj ⟨_, _, _, rfl⟩ ⟨_, _, _, rfl⟩
  cases same
  rfl

theorem Lawful.registered_of_begun {r : Bool} (h : Lawful log) (hb : .begun i a x r ∈ log) :
    ∃ n, .registered i a x n ∈ log := by
  obtain ⟨before, after, rfl, -, ⟨n, hn⟩, -⟩ := h.exists_allowed hb
  exact ⟨n, List.mem_append_left _ hn⟩

-- A run is entered once, with one outcome.
theorem Lawful.begun_unique {r q : Bool} (h : Lawful log) (hi : .begun i a x r ∈ log)
    (hj : .begun j b x q ∈ log) : i = j ∧ r = q := by
  obtain ⟨_, hri⟩ := h.registered_of_begun hi
  obtain ⟨_, hrj⟩ := h.registered_of_begun hj
  obtain ⟨rfl, -⟩ := h.registered_unique hri hrj
  have same := h.unique (p := fun e => ∃ a x r, e = .begun i a x r)
    (by rintro log _ ha ⟨a, x, r, rfl⟩ _ hm ⟨b, y, q, rfl⟩; exact ha.2 _ _ _ hm)
    hi hj ⟨_, _, _, rfl⟩ ⟨_, _, _, rfl⟩
  cases same
  exact ⟨rfl, rfl⟩

theorem Lawful.not_recorded_of_begun (h : Lawful log) (hb : .begun i a x false ∈ log) :
    ¬Recorded log x := by
  rintro ⟨j, b, hj⟩
  exact Bool.noConfusion (h.begun_unique hb hj).2

-- ### Claims

theorem Lawful.claimed_unique (h : Lawful log) (hi : .claimed i a x ∈ log)
    (hj : .claimed j b x ∈ log) : i = j := by
  have same := h.unique (p := fun e => ∃ i a, e = .claimed i a x)
    (by rintro log _ ha ⟨i, a, rfl⟩ _ hm ⟨j, b, rfl⟩; exact ha.2.2.1 ⟨_, _, hm⟩)
    hi hj ⟨_, _, rfl⟩ ⟨_, _, rfl⟩
  cases same
  rfl

theorem Lawful.recorded_of_claimed (h : Lawful log) (hc : Claimed log x) : Recorded log x := by
  obtain ⟨j, a, hc⟩ := hc
  obtain ⟨before, after, rfl, -, -, ⟨i, hi⟩, -⟩ := h.exists_allowed hc
  exact ⟨i, a, List.mem_append_left _ hi⟩

theorem Lawful.granted_of_stop {t u : StopTicket} (h : Lawful log) (hi : .granted k a t ∈ log)
    (hj : .granted k b u ∈ log) : t = u := by
  have same := h.unique (p := fun e => ∃ a t, e = .granted k a t)
    (by rintro log _ ha ⟨a, t, rfl⟩ _ hm ⟨b, u, rfl⟩; exact ha.1 _ hm rfl)
    hi hj ⟨_, _, rfl⟩ ⟨_, _, rfl⟩
  cases same
  rfl

theorem Lawful.registered_of_granted {t : StopTicket} (h : Lawful log)
    (hg : .granted k a t ∈ log) : ∃ i, .registered i a t.execution t.number ∈ log := by
  obtain ⟨before, after, rfl, -, -, ⟨i, hi⟩, -⟩ := h.exists_allowed hg
  exact ⟨i, List.mem_append_left _ hi⟩

theorem Lawful.initiator_unique {t u : StopTicket} (h : Lawful log) (hi : .granted k a t ∈ log)
    (hj : .granted l b u ∈ log) (ht : t.initiator = true) (hu : u.initiator = true)
    (hx : t.execution = u.execution) : k = l := by
  have same := h.unique
    (p := fun e => ∃ k a v, e = .granted k a v ∧ v.initiator = true ∧ v.execution = t.execution)
    (by
      rintro log _ ha ⟨k, a, v, rfl, hv, hvx⟩ _ hm ⟨l, b, w, rfl, -, hwx⟩
      exact ha.2.2.2.mp hv ⟨_, _, _, hm, hwx.trans hvx.symm⟩)
    hi hj ⟨_, _, _, rfl, ht, rfl⟩ ⟨_, _, _, rfl, hu, hx.symm⟩
  cases same
  rfl

theorem Lawful.exists_initiator (h : Lawful log) (hg : Granted log x) :
    ∃ k a t, .granted k a t ∈ log ∧ t.initiator = true ∧ t.execution = x := by
  induction h with
  | nil => simp [Granted] at hg
  | @concat log event _ ha ih =>
      have older (hg : Granted log x) : ∃ k a t, .granted k a t ∈ log ++ [event] ∧
          t.initiator = true ∧ t.execution = x := by
        obtain ⟨k, a, t, hm, ht⟩ := ih hg
        exact ⟨k, a, t, List.mem_append_left _ hm, ht⟩
      rcases granted_concat.mp hg with hg | ⟨k, a, t, rfl, rfl⟩
      · exact older hg
      · by_cases hx : Granted log t.execution
        · exact older hx
        · exact ⟨k, a, t, by simp, ha.2.2.2.mpr hx, rfl⟩

-- Of the two claims only one is ever made.
theorem Lawful.not_granted_of_claimed (h : Lawful log) (hc : Claimed log x) : ¬Granted log x := by
  induction h with
  | nil => simp [Claimed] at hc
  | concat _ ha ih =>
      rw [claimed_concat] at hc
      rw [granted_concat]
      rintro (hg | ⟨k, a, t, rfl, rfl⟩)
      · rcases hc with hc | ⟨j, a, rfl⟩
        · exact ih hc hg
        · exact ha.2.2.2 hg
      · rcases hc with hc | ⟨j, a, hc⟩
        · exact ha.2.2.1 hc
        · cases hc

-- ### Final entries

theorem Lawful.claimed_of_settled {e : RunEnd} (h : Lawful log) (hs : .settled j a x e ∈ log) :
    .claimed j a x ∈ log := by
  obtain ⟨before, after, rfl, -, hc, -⟩ := h.exists_allowed hs
  exact List.mem_append_left _ hc

theorem Lawful.granted_of_stopped (h : Lawful log) (hs : .stopped k a x ∈ log) :
    ∃ t, .granted k a t ∈ log ∧ t.initiator = true ∧ t.execution = x := by
  obtain ⟨before, after, rfl, -, ⟨t, hg, ht⟩, -⟩ := h.exists_allowed hs
  exact ⟨t, List.mem_append_left _ hg, ht⟩

-- Whoever makes a final entry has the one claim to the end of the run, and so is the first.
theorem Allowed.not_finalised (ha : Allowed log event) (h : Lawful log)
    (hf : event.isFinal = true) : ¬Finalised log event.execution := by
  rintro ⟨older, hm, hof, hx⟩
  cases event with
  | settled j a x e =>
      obtain ⟨hc, -, hnew⟩ := ha
      cases older with
      | settled i b y f =>
          have hcy := h.claimed_of_settled hm
          cases hx
          cases h.claimed_unique hc hcy
          exact hnew _ _ _ hm
      | stopped k b y =>
          obtain ⟨t, hg, -, rfl⟩ := h.granted_of_stopped hm
          exact h.not_granted_of_claimed ⟨j, a, hc⟩ ⟨k, b, t, hg, hx⟩
      | _ => cases hof
  | stopped k a x =>
      obtain ⟨⟨t, hg, ht, rfl⟩, hnew, -⟩ := ha
      cases older with
      | settled i b y f =>
          exact h.not_granted_of_claimed ⟨i, b, h.claimed_of_settled hm⟩ ⟨k, a, t, hg, hx.symm⟩
      | stopped l b y =>
          obtain ⟨u, hu, hinit, rfl⟩ := h.granted_of_stopped hm
          cases h.initiator_unique hg hu ht hinit hx.symm
          exact hnew _ _ hm
      | _ => cases hof
  | _ => cases hf

theorem Lawful.final_once (h : Lawful log) (x : String) :
    log.countP (fun event => event.isFinal && event.execution == x) ≤ 1 := by
  induction h with
  | nil => simp
  | @concat log event h ha ih =>
      rw [List.countP_append, List.countP_singleton]
      split
      · rename_i hf
        simp only [Bool.and_eq_true, beq_iff_eq] at hf
        have none : log.countP (fun event => event.isFinal && event.execution == x) = 0 := by
          rw [List.countP_eq_zero]
          intro older hm hof
          simp only [Bool.and_eq_true, beq_iff_eq] at hof
          exact ha.not_finalised h hf.1 ⟨older, hm, hof.1, hof.2.trans hf.2.symm⟩
        omega
      · omega

-- What is finalised has its one final entry.
theorem Lawful.final_eq_one (h : Lawful log) (hf : Finalised log x) :
    log.countP (fun event => event.isFinal && event.execution == x) = 1 := by
  obtain ⟨event, hm, hfinal, hx⟩ := hf
  have hpos : 0 < log.countP fun event => event.isFinal && event.execution == x :=
    List.countP_pos_iff.mpr ⟨event, hm, by simp [hfinal, hx]⟩
  have := h.final_once x
  omega

-- ### Freed registrations

-- A registration that was freed had its final entry, unless its start could not be entered.
theorem Lawful.finalised_of_freed (h : Lawful log) (hf : Freed log x) :
    Finalised log x ∨ ∃ i a, .begun i a x false ∈ log := by
  obtain ⟨p, a, hf⟩ := hf
  obtain ⟨before, after, rfl, -, ha⟩ := h.exists_allowed hf
  cases p with
  | start i => exact .inr ⟨i, a, List.mem_append_left _ ha.2⟩
  | run j =>
      obtain ⟨-, e, he⟩ := ha
      exact .inl ⟨_, List.mem_append_left _ he, rfl, rfl⟩
  | stop k => exact .inl ⟨_, List.mem_append_left _ ha.2, rfl, rfl⟩

-- Everything that happens to an execution happens after its registration.
theorem Lawful.registered_of_mem (hl : Lawful log) (hm : event ∈ log) :
    ∃ i a n, .registered i a event.execution n ∈ log := by
  have ofBegun {i : Nat} {a : Int} {x : String} {r : Bool} (hb : .begun i a x r ∈ log) :
      ∃ i a n, .registered i a x n ∈ log := by
    obtain ⟨n, hn⟩ := hl.registered_of_begun hb
    exact ⟨i, a, n, hn⟩
  have ofGranted {k : Nat} {a : Int} {t : StopTicket} (hg : .granted k a t ∈ log) :
      ∃ i a n, .registered i a t.execution n ∈ log := by
    obtain ⟨i, hi⟩ := hl.registered_of_granted hg
    exact ⟨i, a, _, hi⟩
  have ofClaimed {x : String} (hc : Claimed log x) : ∃ i a n, .registered i a x n ∈ log := by
    obtain ⟨i, a, hb⟩ := hl.recorded_of_claimed hc
    exact ofBegun hb
  have ofFinalised {x : String} (hf : Finalised log x) : ∃ i a n, .registered i a x n ∈ log := by
    obtain ⟨final, hfm, hff, rfl⟩ := hf
    cases final with
    | settled j a x e => exact ofClaimed ⟨j, a, hl.claimed_of_settled hfm⟩
    | stopped k a x =>
        obtain ⟨t, hg, -, rfl⟩ := hl.granted_of_stopped hfm
        exact ofGranted hg
    | _ => cases hff
  cases event with
  | registered i a x n => exact ⟨i, a, n, hm⟩
  | begun i a x r => exact ofBegun hm
  | granted k a t => exact ofGranted hm
  | expired k a t =>
      obtain ⟨before, after, rfl, -, hg, -⟩ := hl.exists_allowed hm
      exact ofGranted (List.mem_append_left _ hg)
  | claimed j a x => exact ofClaimed ⟨j, a, hm⟩
  | settled j a x e => exact ofFinalised ⟨_, hm, rfl, rfl⟩
  | stopped k a x => exact ofFinalised ⟨_, hm, rfl, rfl⟩
  | freed p a x =>
      rcases hl.finalised_of_freed ⟨p, a, hm⟩ with hf | ⟨i, b, hb⟩
      · exact ofFinalised hf
      · exact ofBegun hb

end Spiderworks.History
