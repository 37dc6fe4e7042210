import Mathlib.Data.List.Induction
import Spiderworks.Proofs.Registry.Automata

namespace Spiderworks.Registry

-- A call, or a signal that is set by someone who was handed it.
inductive Move where
  | call (c : Call)
  | cancel (number : Nat)
  | finish (number : Nat)
  deriving DecidableEq, Repr

def act (r : Registry) : Move → Registry
  | .call c => (r.answer c).2
  | .cancel n => r.cancel n
  | .finish n => r.finish n

def after (r : Registry) (moves : List Move) : Registry := moves.foldl act r

-- The registration that a move takes out.
def removal? (r : Registry) : Move → Option Nat
  | .call (.remove a x) => (r.own? a x).map (·.number)
  | _ => none

variable {r r' : Registry} {a b : Int} {x y : String} {n k : Nat} {move : Move}

theorem after_concat (r : Registry) (moves : List Move) (move : Move) :
    r.after (moves ++ [move]) = (r.after moves).act move := by
  rw [after, List.foldl_append]
  rfl

-- ### Signals

theorem signalsOf_signal_self (hn : n < r.signals.length) (f : Signals → Signals) :
    (r.signal n f).signalsOf n = f (r.signalsOf n) := by
  simp [signalsOf, signal, List.getElem?_eq_getElem hn]

theorem signalsOf_signal_other (h : k ≠ n) (f : Signals → Signals) :
    (r.signal n f).signalsOf k = r.signalsOf k := by
  rcases signalsOf_signal r n k f with hk | ⟨hk, -⟩
  · exact hk
  · exact absurd hk h

theorem length_signal (r : Registry) (n : Nat) (f : Signals → Signals) :
    (r.signal n f).signals.length = r.signals.length := by
  rw [signal, List.length_modify]

-- ### What a move does

-- Which run a registration is of. Its phase and its process come and go.
structure Owner where
  spider : Int
  execution : String
  number : Nat
  deriving DecidableEq, Repr

def Owner.of (g : Registration) : Owner := ⟨g.spider, g.execution, g.number⟩

def owners (r : Registry) : List Owner := r.live.map Owner.of

theorem owners_change {f : Registration → Registration} (hf : ∀ g, Owner.of (f g) = Owner.of g) :
    (r.change a f).owners = r.owners := by
  rw [owners, change, List.map_map]
  refine List.map_congr_left fun g _ => ?_
  rw [Function.comp_apply]
  split
  · exact hf g
  · rfl

theorem owners_filter (signals : List Signals) :
    owners ⟨r.live.filter (·.spider != a), signals⟩ = r.owners.filter (·.spider != a) := by
  rw [owners, owners, List.filter_map]
  rfl

-- A move leaves the registrations alone, or makes one or takes one out.
inductive Moved (r : Registry) (move : Move) : Prop where
  | none (removal : r.removal? move = none) (owners : (r.act move).owners = r.owners)
      (length : (r.act move).signals.length = r.signals.length)
  | register (a : Int) (x : String) (removal : r.removal? move = Option.none)
      (new : ∀ o ∈ r.owners, o.spider ≠ a)
      (owners : (r.act move).owners = r.owners ++ [⟨a, x, r.signals.length⟩])
      (length : (r.act move).signals.length = r.signals.length + 1)
  | remove (o : Owner) (mem : o ∈ r.owners) (removal : r.removal? move = some o.number)
      (owners : (r.act move).owners = r.owners.filter (·.spider != o.spider))
      (length : (r.act move).signals.length = r.signals.length)

theorem moved (h : r.Sole) (move : Move) : r.Moved move := by
  -- a call that rewrites a registration
  have changed {c : Call} {a : Int} {f : Registration → Registration}
      (hf : ∀ g, Owner.of (f g) = Owner.of g) (hm : r.removal? (.call c) = none)
      (hr : (r.answer c).2 = r.change a f) : r.Moved (.call c) := by
    refine .none hm ?_ ?_
    · rw [act, hr, owners_change hf]
    · rw [act, hr]
      rfl
  have idle {c : Call} (hm : r.removal? (.call c) = none) (hr : (r.answer c).2 = r) :
      r.Moved (.call c) := .none hm (by rw [act, hr]) (by rw [act, hr])
  cases move with
  | cancel n => exact .none rfl rfl (length_signal r n _)
  | finish n => exact .none rfl rfl (length_signal r n _)
  | call c =>
      cases c with
      | register a x =>
          cases hr : r.register a x with
          | none => exact idle rfl (by rw [answer, hr])
          | some p =>
              obtain ⟨n, r'⟩ := p
              obtain ⟨hnew, rfl, rfl⟩ := register_eq_some_iff.mp hr
              refine .register a x rfl ?_ ?_ ?_
              · intro o ho
                obtain ⟨g, hg, rfl⟩ := List.mem_map.mp ho
                exact hnew g hg
              · rw [act, answer, hr, owners, List.map_append]
                rfl
              · rw [act, answer, hr, List.length_append]
                rfl
      | attach a x pid =>
          cases hown : r.own? a x with
          | none => exact idle rfl (by simp only [answer, attach, hown])
          | some g =>
              exact changed (a := a) (f := fun e => { e with pid := pid }) (fun _ => rfl) rfl
                (by simp only [answer, attach, hown])
      | beginStop a =>
          cases hr : r.beginStop a with
          | none => exact idle rfl (by rw [answer, hr])
          | some p =>
              obtain ⟨t, r'⟩ := p
              obtain ⟨g, -, -, -, -, rfl⟩ := beginStop_eq_some hr
              exact changed (a := a) (f := fun e => { e with phase := .stopping }) (fun _ => rfl)
                rfl (by rw [answer, hr])
      | beginFinish a x =>
          cases hr : r.beginFinish a x with
          | none => exact idle rfl (by rw [answer, hr])
          | some r' =>
              obtain ⟨g, -, -, -, -, rfl⟩ := beginFinish_eq_some h hr
              exact changed (a := a) (f := fun e => { e with phase := .finishing }) (fun _ => rfl)
                rfl (by rw [answer, hr])
      | remove a x =>
          cases hown : r.own? a x with
          | none =>
              exact idle (by rw [removal?, hown]; rfl)
                (by simp only [answer, remove, hown, Option.map_none])
          | some g =>
              obtain ⟨hg, hga, -⟩ := (own?_eq_some_iff h).mp hown
              refine .remove (.of g) (List.mem_map_of_mem hg) (by rw [removal?, hown]; rfl) ?_ ?_
              · simp only [act, answer, remove, hown, Option.map_some]
                rw [show (Owner.of g).spider = a from hga, release]
                exact owners_filter _
              · simp only [act, answer, remove, hown, Option.map_some, release, length_signal]

-- The one signal that a call sets is `released`, of the registration that it takes out.
theorem signalsOf_answer (hs : r.Sole) (hk : k < r.signals.length) (c : Call) :
    (r.answer c).2.signalsOf k =
      if r.removal? (.call c) = some k then { r.signalsOf k with released := true }
      else r.signalsOf k := by
  have unset {r' : Registry} (hr : r'.signalsOf k = r.signalsOf k)
      (hm : r.removal? (.call c) = none) :
      r'.signalsOf k =
        if r.removal? (.call c) = some k then { r.signalsOf k with released := true }
        else r.signalsOf k := by
    rw [hm, if_neg nofun, hr]
  cases c with
  | register a x =>
      simp only [answer]
      split
      · rename_i n r' hr
        obtain ⟨-, -, rfl⟩ := register_eq_some_iff.mp hr
        exact unset (signalsOf_register r k) rfl
      · exact unset rfl rfl
  | attach a x pid =>
      simp only [answer, attach]
      split <;> exact unset rfl rfl
  | beginStop a =>
      simp only [answer]
      split
      · rename_i t r' hr
        obtain ⟨g, -, -, -, -, rfl⟩ := beginStop_eq_some hr
        exact unset rfl rfl
      · exact unset rfl rfl
  | beginFinish a x =>
      simp only [answer]
      split
      · rename_i r' hr
        obtain ⟨g, -, -, -, -, rfl⟩ := beginFinish_eq_some hs hr
        exact unset rfl rfl
      · exact unset rfl rfl
  | remove a x =>
      cases hown : r.own? a x with
      | none =>
          have hr : (r.answer (.remove a x)).2 = r := by
            simp only [answer, remove, hown, Option.map_none]
          rw [hr]
          exact unset rfl (by rw [removal?, hown]; rfl)
      | some g =>
          have hr : (r.answer (.remove a x)).2 =
              release { r with live := r.live.filter (·.spider != a) } g.number := by
            simp only [answer, remove, hown, Option.map_some]
          have hm : r.removal? (.call (.remove a x)) = some g.number := by
            rw [removal?, hown]
            rfl
          rw [hr, hm, release]
          by_cases hg : k = g.number
          · subst hg
            rw [if_pos rfl]
            exact signalsOf_signal_self (r := ⟨r.live.filter (·.spider != a), r.signals⟩) hk _
          · rw [if_neg (by simpa using Ne.symm hg)]
            exact signalsOf_signal_other hg _

-- Each signal of a registration that was made is set by one kind of move, and stays set.
theorem signalsOf_act (hs : r.Sole) (hk : k < r.signals.length) (move : Move) :
    (r.act move).signalsOf k =
      ⟨(r.signalsOf k).cancel || decide (move = .cancel k),
        (r.signalsOf k).finished || decide (move = .finish k),
        (r.signalsOf k).released || decide (r.removal? move = some k)⟩ := by
  cases move with
  | call c =>
      rw [act, signalsOf_answer hs hk]
      by_cases hm : r.removal? (.call c) = some k
      · simp [hm]
      · simp [hm]
  | cancel n =>
      rw [act, cancel]
      by_cases hn : n = k
      · subst hn
        rw [signalsOf_signal_self hk]
        simp [removal?]
      · rw [signalsOf_signal_other (Ne.symm hn)]
        simp [removal?, hn]
  | finish n =>
      rw [act, finish]
      by_cases hn : n = k
      · subst hn
        rw [signalsOf_signal_self hk]
        simp [removal?]
      · rw [signalsOf_signal_other (Ne.symm hn)]
        simp [removal?, hn]

-- ### Numbers

-- Every registration has a number of its own, and no number is given out twice.
structure Numbered (r : Registry) : Prop where
  sole : r.Sole
  distinct : (r.owners.map (·.number)).Nodup
  known : ∀ o ∈ r.owners, o.number < r.signals.length

theorem Numbered.empty : Numbered .empty := ⟨List.nodup_nil, List.nodup_nil, nofun⟩

theorem Numbered.act (h : r.Numbered) (move : Move) : (r.act move).Numbered := by
  have hsole : (r.act move).Sole := by
    cases move with
    | call c => exact h.sole.answer c
    | _ => exact h.sole
  refine ⟨hsole, ?_, ?_⟩
  · cases moved h.sole move with
    | none _ howners _ =>
        rw [howners]
        exact h.distinct
    | register a x _ _ howners _ =>
        rw [howners, List.map_append]
        refine List.nodup_append.mpr ⟨h.distinct, List.nodup_singleton _, ?_⟩
        intro n hn m hm
        obtain ⟨o, ho, rfl⟩ := List.mem_map.mp hn
        have hlt := h.known o ho
        simp only [List.map_cons, List.map_nil, List.mem_singleton] at hm
        omega
    | remove o _ _ howners _ =>
        rw [howners]
        exact h.distinct.sublist (List.filter_sublist.map _)
  · intro o ho
    cases moved h.sole move with
    | none _ howners hlength =>
        rw [howners] at ho
        rw [hlength]
        exact h.known o ho
    | register a x _ _ howners hlength =>
        rw [howners, List.mem_append, List.mem_singleton] at ho
        rw [hlength]
        rcases ho with ho | rfl
        · have := h.known o ho
          omega
        · exact Nat.lt_succ_self _
    | remove o' _ _ howners hlength =>
        rw [howners] at ho
        rw [hlength]
        exact h.known o (List.mem_filter.mp ho).1

theorem Numbered.register (h : r.Numbered) (hr : r.register a x = some (n, r')) : r'.Numbered := by
  have hact := h.act (.call (.register a x))
  rwa [Registry.act, answer, hr] at hact

theorem Numbered.after (h : r.Numbered) (moves : List Move) : (r.after moves).Numbered := by
  induction moves generalizing r with
  | nil => exact h
  | cons move rest ih => exact ih (h.act move)

theorem Numbered.eq_of_number (h : r.Numbered) {o o' : Owner} (ho : o ∈ r.owners)
    (ho' : o' ∈ r.owners) (hn : o.number = o'.number) : o = o' :=
  List.inj_on_of_nodup_map h.distinct ho ho' hn

theorem Numbered.eq_of_spider (h : r.Numbered) {o o' : Owner} (ho : o ∈ r.owners)
    (ho' : o' ∈ r.owners) (hs : o.spider = o'.spider) : o = o' := by
  obtain ⟨g, hg, rfl⟩ := List.mem_map.mp ho
  obtain ⟨g', hg', rfl⟩ := List.mem_map.mp ho'
  rw [h.sole.eq_of_spider hg hg' hs]

theorem length_le_act (hs : r.Sole) (move : Move) :
    r.signals.length ≤ (r.act move).signals.length := by
  cases moved hs move with
  | register _ _ _ _ _ hlength => omega
  | _ => omega

theorem Numbered.length_le_after (h : r.Numbered) (moves : List Move) :
    r.signals.length ≤ (r.after moves).signals.length := by
  induction moves generalizing r with
  | nil => exact Nat.le_refl _
  | cons move rest ih => exact Nat.le_trans (length_le_act h.sole move) (ih (h.act move))

-- A registration is there until the move that takes it out.
theorem Numbered.mem_act_iff (h : r.Numbered) {o : Owner} (hk : o.number < r.signals.length)
    (move : Move) :
    o ∈ (r.act move).owners ↔ o ∈ r.owners ∧ r.removal? move ≠ some o.number := by
  cases moved h.sole move with
  | none hremoval howners _ =>
      rw [howners, hremoval]
      simp
  | register a x hremoval _ howners _ =>
      rw [howners, hremoval, List.mem_append, List.mem_singleton]
      have hne : o ≠ ⟨a, x, r.signals.length⟩ := by
        rintro rfl
        exact Nat.lt_irrefl _ hk
      simp [hne]
  | remove o' hmem hremoval howners _ =>
      rw [howners, hremoval, List.mem_filter]
      refine and_congr_right fun ho => ?_
      simp only [bne_iff_ne, ne_eq, Option.some.injEq]
      refine not_congr ⟨fun hs => ?_, fun hn => ?_⟩
      · rw [h.eq_of_spider ho hmem hs]
      · rw [h.eq_of_number hmem ho hn]

-- ### From a registration on

-- What the registration `n` of a spider and an execution has come to since it was made.
structure Since (r : Registry) (a : Int) (x : String) (n : Nat) (moves : List Move) : Prop where
  known : n < (r.after moves).signals.length
  cancel : ((r.after moves).signalsOf n).cancel = true ↔ .cancel n ∈ moves
  finished : ((r.after moves).signalsOf n).finished = true ↔ .finish n ∈ moves
  released : ((r.after moves).signalsOf n).released = true ↔
    ∃ earlier move later, moves = earlier ++ move :: later ∧
      (r.after earlier).removal? move = some n
  present : ⟨a, x, n⟩ ∈ (r.after moves).owners ↔ ((r.after moves).signalsOf n).released = false

theorem exists_concat_iff {P : List Move → Move → Prop} {moves : List Move} :
    (∃ earlier m later, moves ++ [move] = earlier ++ m :: later ∧ P earlier m) ↔
      (∃ earlier m later, moves = earlier ++ m :: later ∧ P earlier m) ∨ P moves move := by
  constructor
  · rintro ⟨earlier, m, later, heq, hp⟩
    rcases List.eq_nil_or_concat later with rfl | ⟨later, last, rfl⟩
    · obtain ⟨rfl, hm⟩ := List.append_inj' heq rfl
      cases hm
      exact .inr hp
    · have heq' : moves ++ [move] = (earlier ++ m :: later) ++ [last] := by simpa using heq
      obtain ⟨rfl, -⟩ := List.append_inj' heq' rfl
      exact .inl ⟨earlier, m, later, rfl, hp⟩
  · rintro (⟨earlier, m, later, rfl, hp⟩ | hp)
    · exact ⟨earlier, m, later ++ [move], by simp, hp⟩
    · exact ⟨moves, move, [], rfl, hp⟩

theorem Since.of_register (h : r.Numbered) (hr : r.register a x = some (n, r'))
    (moves : List Move) : r'.Since a x n moves := by
  have hnumbered := h.register hr
  obtain ⟨-, rfl, rfl⟩ := register_eq_some_iff.mp hr
  -- on the moves, taking in one more at the end
  induction moves using List.reverseRecOn with
  | nil =>
      refine ⟨by simp [after], ?_, ?_, ?_, ?_⟩ <;>
        simp [after, signalsOf, Signals.fresh, owners, Owner.of]
  | append_singleton moves move ih =>
      have hthen := hnumbered.after moves
      have hact := signalsOf_act hthen.sole ih.known move
      refine ⟨?_, ?_, ?_, ?_, ?_⟩
      · rw [after_concat]
        exact Nat.lt_of_lt_of_le ih.known (length_le_act hthen.sole move)
      · rw [after_concat, hact]
        simp [ih.cancel, eq_comm (a := move)]
      · rw [after_concat, hact]
        simp [ih.finished, eq_comm (a := move)]
      · rw [after_concat, hact, exists_concat_iff, ← ih.released]
        simp
      · rw [after_concat, hact, hthen.mem_act_iff ih.known, ih.present]
        simp

theorem mem_owners_iff (hs : r.Sole) :
    ⟨a, x, n⟩ ∈ r.owners ↔ ∃ g, r.own? a x = some g ∧ g.number = n := by
  rw [owners, List.mem_map]
  constructor
  · rintro ⟨g, hg, ho⟩
    cases ho
    exact ⟨g, (own?_eq_some_iff hs).mpr ⟨hg, rfl, rfl⟩, rfl⟩
  · rintro ⟨g, hg, rfl⟩
    obtain ⟨hmem, rfl, rfl⟩ := (own?_eq_some_iff hs).mp hg
    exact ⟨g, hmem, rfl⟩

-- The number of a spider is that of its registration, for those who look and for those who stop it.
theorem number?_of_mem (hs : r.Sole) (h : ⟨a, x, n⟩ ∈ r.owners) : r.number? a = some n := by
  obtain ⟨g, hg, ho⟩ := List.mem_map.mp h
  cases ho
  rw [number?, (find?_eq_some_iff hs).mpr ⟨hg, rfl⟩]
  rfl

theorem number?_of_beginStop {t : StopTicket} (h : r.beginStop a = some (t, r')) :
    r.number? a = some t.number := by
  unfold beginStop at h
  split at h
  · rename_i g hg
    split at h
    · cases h
      rw [number?, hg]
      rfl
    · cases h
  · cases h

-- A move that reaches the signals of the registration `n`.
def About (r : Registry) (n : Nat) (move : Move) : Prop :=
  move = .cancel n ∨ move = .finish n ∨ r.removal? move = some n

theorem signalsOf_about (h : r.Numbered) (hk : k < r.signals.length) (hne : k ≠ n)
    (hm : r.About n move) : (r.act move).signalsOf k = r.signalsOf k := by
  rw [signalsOf_act h.sole hk]
  rcases hm with rfl | rfl | hm
  · simp [removal?, Ne.symm hne]
  · simp [removal?, Ne.symm hne]
  · have hcall : move ≠ .cancel k ∧ move ≠ .finish k := by
      constructor <;>
      · rintro rfl
        cases hm
    simp [hm, hcall.1, hcall.2, Ne.symm hne]

-- The signals of the registration `n` after any moves. `released`: set by the removal of this very
-- registration, which `present` says is there until then. `calls`: a call sets no other signal.
-- `shared`: whoever looks the spider up, or is granted a stop, meets the same signals. `renewed`:
-- a later registration has signals of its own, which nothing done to the earlier ones reaches.
structure Tracks (r : Registry) (a : Int) (x : String) (n : Nat) (moves : List Move) : Prop where
  released : ((r.after moves).signalsOf n).released = true ↔
    ∃ earlier move later, moves = earlier ++ move :: later ∧
      (r.after earlier).removal? move = some n
  present : ((r.after moves).signalsOf n).released = false ↔
    ∃ g, (r.after moves).own? a x = some g ∧ g.number = n
  cancel : ((r.after moves).signalsOf n).cancel = true ↔ .cancel n ∈ moves
  finished : ((r.after moves).signalsOf n).finished = true ↔ .finish n ∈ moves
  calls : ∀ c, (((r.after moves).answer c).2.signalsOf n).cancel =
      ((r.after moves).signalsOf n).cancel ∧
    (((r.after moves).answer c).2.signalsOf n).finished = ((r.after moves).signalsOf n).finished
  shared : ((r.after moves).signalsOf n).released = false → (r.after moves).number? a = some n ∧
    ∀ t r', (r.after moves).beginStop a = some (t, r') → t.number = n
  renewed : ∀ b y k r', (r.after moves).register b y = some (k, r') →
    k ≠ n ∧ r'.signalsOf k = .fresh ∧ ∀ later move, (r'.after later).About n move →
      ((r'.after later).act move).signalsOf k = (r'.after later).signalsOf k

theorem signals_track (before moves : List Move) (a : Int) (x : String) (n : Nat) (r : Registry)
    (h : (after .empty before).register a x = some (n, r)) : r.Tracks a x n moves := by
  have hbefore : (after .empty before).Numbered := Numbered.empty.after before
  have since := Since.of_register hbefore h moves
  have hthen := (hbefore.register h).after moves
  refine ⟨since.released, ?_, since.cancel, since.finished, ?_, ?_, ?_⟩
  · rw [← since.present, mem_owners_iff hthen.sole]
  · intro c
    rw [signalsOf_answer hthen.sole since.known]
    split <;> exact ⟨rfl, rfl⟩
  · intro hpresent
    have hnumber := number?_of_mem hthen.sole (since.present.mpr hpresent)
    refine ⟨hnumber, fun t r' ht => ?_⟩
    have hticket := number?_of_beginStop ht
    rw [hnumber] at hticket
    exact (Option.some.inj hticket).symm
  · intro b y k r' hk
    have hr' := hthen.register hk
    have hnew := Since.of_register hthen hk []
    obtain ⟨-, rfl, rfl⟩ := register_eq_some_iff.mp hk
    have hne : (r.after moves).signals.length ≠ n := by
      have := since.known
      omega
    refine ⟨hne, by simp [signalsOf], fun later move hm => ?_⟩
    refine signalsOf_about (hr'.after later) ?_ hne hm
    exact Nat.lt_of_lt_of_le hnew.known (hr'.length_le_after later)

-- The first run is cancelled and taken out; the next one of the spider has the same name.
theorem signals_track_renewed :
    let r : Registry := ⟨[⟨1, "run", .running, none, 0⟩], [.fresh]⟩
    let moves : List Move := [.cancel 0, .call (.remove 1 "run"), .call (.register 1 "run")]
    (after .empty []).register 1 "run" = some (0, r) ∧ r.Tracks 1 "run" 0 moves ∧
      (r.after moves).signals = [⟨true, false, true⟩, .fresh] := by
  refine ⟨by decide, signals_track [] _ 1 "run" 0 _ (by decide), by decide⟩

end Spiderworks.Registry
