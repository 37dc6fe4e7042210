import Mathlib.Algebra.Group.Nat.Defs
import Mathlib.Data.List.Count
import Spiderworks.Proofs.Rules.Config
import Spiderworks.Worker.Request

namespace Spiderworks.Worker

variable {net : Network} {s : RuleSet} {config : RuleSet.Config} {limit attempt n : Nat}
  {page : String}

-- ### Courses of events

def FetchEvent.isAsked : FetchEvent → Bool
  | .asked _ => true
  | .waited _ => false

def Fetch.attempts (f : Fetch) : Nat := f.events.countP (·.isAsked)

def Fetch.waits (f : Fetch) : Nat := f.events.countP fun e => !e.isAsked

-- As many attempts that have failed, each with the wait behind it.
def rounds (delay : Float) (attempt : Nat) : Nat → List FetchEvent
  | 0 => []
  | n + 1 => .asked attempt :: .waited delay :: rounds delay (attempt + 1) n

-- What happens when the attempt after `n` others, all of which have failed, is the last one.
def inTurn (delay : Float) (n : Nat) : List FetchEvent := rounds delay 1 n ++ [.asked (n + 1)]

theorem asked_rounds (delay : Float) (attempt n : Nat) :
    (rounds delay attempt n).countP (·.isAsked) = n := by
  induction n generalizing attempt with
  | zero => rfl
  | succ n ih =>
      rw [rounds, List.countP_cons_of_pos rfl, List.countP_cons_of_neg Bool.false_ne_true, ih]

theorem waited_rounds (delay : Float) (attempt n : Nat) :
    (rounds delay attempt n).countP (fun e => !e.isAsked) = n := by
  induction n generalizing attempt with
  | zero => rfl
  | succ n ih =>
      rw [rounds, List.countP_cons_of_neg Bool.false_ne_true, List.countP_cons_of_pos rfl, ih]

theorem attempts_inTurn (delay : Float) (n : Nat) (ending : Except Trouble String) :
    (Fetch.mk (inTurn delay n) ending).attempts = n + 1 := by
  rw [Fetch.attempts, inTurn, List.countP_append, asked_rounds]
  rfl

theorem waits_inTurn (delay : Float) (n : Nat) (ending : Except Trouble String) :
    (Fetch.mk (inTurn delay n) ending).waits = n := by
  rw [Fetch.waits, inTurn, List.countP_append, waited_rounds]
  rfl

-- ### Attempts one after the other

def Fails (net : Network) (s : RuleSet) (attempt : Nat) : Prop :=
  ∃ reason, fetchOnce net s.url attempt = .error reason

theorem fetchFrom_of_ok (h : fetchOnce net s.url attempt = .ok page) :
    fetchFrom net s limit attempt = ⟨[.asked attempt], .ok page⟩ := by
  rw [fetchFrom, h]

-- An attempt that fails is followed by the next one, unless it was the last.
theorem fetchFrom_of_fails (hdelay : RuleSet.isDuration s.delay = true)
    (h : Fails net s attempt) (hlt : attempt < limit) : fetchFrom net s limit attempt =
      ⟨.asked attempt :: .waited s.delay :: (fetchFrom net s limit (attempt + 1)).events,
        (fetchFrom net s limit (attempt + 1)).ending⟩ := by
  obtain ⟨reason, hreason⟩ := h
  rw [fetchFrom, hreason]
  simp only [hlt, hdelay, ↓reduceIte]

theorem fetchFrom_last {reason : String} (h : fetchOnce net s.url attempt = .error reason)
    (hle : limit ≤ attempt) : fetchFrom net s limit attempt =
      ⟨[.asked attempt], .error (.told (.fetch s.url attempt reason))⟩ := by
  have hlast : ¬attempt < limit := by omega
  rw [fetchFrom, h]
  simp only [hlast, ↓reduceIte]

-- Attempts that have failed leave the others to go on as if they were the first.
theorem fetchFrom_rounds (hdelay : RuleSet.isDuration s.delay = true) (hn : n ≤ limit - attempt)
    (hfails : ∀ j < n, Fails net s (attempt + j)) : fetchFrom net s limit attempt =
      ⟨rounds s.delay attempt n ++ (fetchFrom net s limit (attempt + n)).events,
        (fetchFrom net s limit (attempt + n)).ending⟩ := by
  induction n generalizing attempt with
  | zero => rfl
  | succ n ih =>
      have hnext : ∀ j, attempt + 1 + j = attempt + (j + 1) := by
        intro j
        omega
      have hfirst : Fails net s attempt := hfails 0 (by omega)
      have hrest : fetchFrom net s limit (attempt + 1) =
          ⟨rounds s.delay (attempt + 1) n ++ (fetchFrom net s limit (attempt + (n + 1))).events,
            (fetchFrom net s limit (attempt + (n + 1))).ending⟩ := by
        rw [← hnext n]
        apply ih
        · omega
        · intro j hj
          rw [hnext]
          exact hfails (j + 1) (by omega)
      rw [fetchFrom_of_fails hdelay hfirst (by omega), hrest]
      rfl

theorem fetchPage_of_ok (hdelay : RuleSet.isDuration s.delay = true) (hn : n ≤ attemptsOf s - 1)
    (hfails : ∀ j < n, Fails net s (j + 1)) (hok : fetchOnce net s.url (n + 1) = .ok page) :
    fetchPage net s = ⟨inTurn s.delay n, .ok page⟩ := by
  have hrounds := fetchFrom_rounds hdelay hn fun j hj => Nat.add_comm j 1 ▸ hfails j hj
  rw [fetchPage, hrounds, Nat.add_comm 1 n, fetchFrom_of_ok hok]
  rfl

theorem fetchPage_of_error {reason : String} (hdelay : RuleSet.isDuration s.delay = true)
    (hn : n = attemptsOf s - 1) (hfails : ∀ j < n, Fails net s (j + 1))
    (hlast : fetchOnce net s.url (n + 1) = .error reason) : fetchPage net s =
      ⟨inTurn s.delay n, .error (.told (.fetch s.url (n + 1) reason))⟩ := by
  have hrounds := fetchFrom_rounds hdelay (Nat.le_of_eq hn) fun j hj =>
    Nat.add_comm j 1 ▸ hfails j hj
  rw [fetchPage, hrounds, Nat.add_comm 1 n, fetchFrom_last hlast (by omega)]
  rfl

-- Either an attempt is the first to succeed, or all of them fail.
theorem first_or_all (net : Network) (s : RuleSet) (k : Nat) :
    (∃ n < k, ∃ page, (∀ j < n, Fails net s (j + 1)) ∧ fetchOnce net s.url (n + 1) = .ok page) ∨
      ∀ j < k, Fails net s (j + 1) := by
  induction k with
  | zero => exact .inr nofun
  | succ k ih =>
      rcases ih with ⟨n, hn, h⟩ | hall
      · exact .inl ⟨n, by omega, h⟩
      · cases hk : fetchOnce net s.url (k + 1) with
        | ok page => exact .inl ⟨k, by omega, page, hall, hk⟩
        | error reason =>
            refine .inr fun j hj => ?_
            by_cases hlt : j < k
            · exact hall j hlt
            · have hj : j = k := by omega
              rw [hj]
              exact ⟨reason, hk⟩

-- ### The count of attempts

theorem attemptsOf_of_lt (h : s.retries + 1 < 2 ^ 32) : attemptsOf s = s.retries + 1 :=
  Nat.mod_eq_of_lt h

theorem attemptsOf_of_largest (h : s.retries = 2 ^ 32 - 1) : attemptsOf s = 0 := by
  rw [attemptsOf, h]
  decide

-- What is expected of the retries of a rule set: `first`, that the page of the first attempt that
-- succeeds is taken and nothing is done after it; `most`, that there is at most one attempt more
-- than there are retries; and `all`, that so many are made and reported when they all fail.
structure HonoursRetries (net : Network) (s : RuleSet) : Prop where
  first : ∀ n ≤ s.retries, ∀ page, (∀ j < n, Fails net s (j + 1)) →
    fetchOnce net s.url (n + 1) = .ok page → fetchPage net s = ⟨inTurn s.delay n, .ok page⟩
  most : (fetchPage net s).attempts ≤ s.retries + 1
  all : (∀ j ≤ s.retries, Fails net s (j + 1)) →
    (fetchPage net s).attempts = s.retries + 1 ∧ (fetchPage net s).waits = s.retries ∧
      ∃ reason, fetchPage net s =
        ⟨inTurn s.delay s.retries, .error (.told (.fetch s.url (s.retries + 1) reason))⟩

theorem honoursRetries (hdelay : RuleSet.isDuration s.delay = true) (h : s.retries + 1 < 2 ^ 32)
    (net : Network) : HonoursRetries net s := by
  have hcount : attemptsOf s - 1 = s.retries := by
    rw [attemptsOf_of_lt h]
    omega
  have hfirst : ∀ n ≤ s.retries, ∀ page, (∀ j < n, Fails net s (j + 1)) →
      fetchOnce net s.url (n + 1) = .ok page → fetchPage net s = ⟨inTurn s.delay n, .ok page⟩ := by
    intro n hn page hfails hok
    exact fetchPage_of_ok hdelay (by omega) hfails hok
  have hall : (∀ j ≤ s.retries, Fails net s (j + 1)) → ∃ reason, fetchPage net s =
      ⟨inTurn s.delay s.retries, .error (.told (.fetch s.url (s.retries + 1) reason))⟩ := by
    intro hfails
    obtain ⟨reason, hreason⟩ := hfails s.retries (Nat.le_refl _)
    exact ⟨reason, fetchPage_of_error hdelay hcount.symm (fun j hj => hfails j (by omega)) hreason⟩
  refine ⟨hfirst, ?_, ?_⟩
  · rcases first_or_all net s (s.retries + 1) with ⟨n, hn, page, hfails, hok⟩ | hfails
    · rw [hfirst n (by omega) page hfails hok, attempts_inTurn]
      omega
    · obtain ⟨reason, heq⟩ := hall fun j hj => hfails j (by omega)
      rw [heq, attempts_inTurn]
  · intro hfails
    obtain ⟨reason, heq⟩ := hall hfails
    rw [heq, attempts_inTurn, waits_inTurn]
    exact ⟨rfl, rfl, reason, rfl⟩

-- A count of attempts that has come to nothing.
theorem fetchPage_of_largest (hdelay : RuleSet.isDuration s.delay = true)
    (h : s.retries = 2 ^ 32 - 1) (net : Network) :
    (∃ page, fetchOnce net s.url 1 = .ok page ∧ fetchPage net s = ⟨[.asked 1], .ok page⟩) ∨
      ∃ reason, fetchOnce net s.url 1 = .error reason ∧
        fetchPage net s = ⟨[.asked 1], .error (.told (.fetch s.url 1 reason))⟩ := by
  have hcount : 0 = attemptsOf s - 1 := by rw [attemptsOf_of_largest h]
  cases hone : fetchOnce net s.url 1 with
  | ok page =>
      have hpage := fetchPage_of_ok (n := 0) hdelay (by omega) nofun hone
      exact .inl ⟨page, rfl, hpage⟩
  | error reason =>
      have herror := fetchPage_of_error (n := 0) hdelay hcount nofun hone
      exact .inr ⟨reason, rfl, herror⟩

theorem fails_always (s : RuleSet) (attempt : Nat) : Fails (fun _ _ => .error "") s attempt := by
  unfold Fails fetchOnce
  cases urlFault? s.url with
  | none => exact ⟨"", rfl⟩
  | some reason => exact ⟨reason, rfl⟩

-- The retries of a rule set that is accepted are honoured, whatever the network answers, unless
-- they are the most that 32 bits can hold. Then the first attempt is also the last.
theorem retries_honoured_iff (h : RuleSet.ofConfig config = .ok s) :
    ((∀ net, HonoursRetries net s) ↔ s.retries ≠ 2 ^ 32 - 1) ∧
    (s.retries = 2 ^ 32 - 1 → ∀ net,
      (∃ page, fetchOnce net s.url 1 = .ok page ∧ fetchPage net s = ⟨[.asked 1], .ok page⟩) ∨
      ∃ reason, fetchOnce net s.url 1 = .error reason ∧
        fetchPage net s = ⟨[.asked 1], .error (.told (.fetch s.url 1 reason))⟩) := by
  have hdelay := RuleSet.isDuration_delay h
  refine ⟨⟨fun hall hlargest => ?_, fun hne net => ?_⟩, fetchPage_of_largest hdelay⟩
  · obtain ⟨hattempts, -⟩ := (hall fun _ _ => .error "").all fun j _ => fails_always s (j + 1)
    have hone : (fetchPage (fun _ _ => .error "") s).attempts = 1 := by
      rcases fetchPage_of_largest hdelay hlargest fun _ _ => .error "" with
        ⟨page, -, heq⟩ | ⟨reason, -, heq⟩
      · rw [heq]
        rfl
      · rw [heq]
        rfl
    omega
  · have hlt : s.retries < 2 ^ 32 := RuleSet.readRetries_lt (RuleSet.ofConfig_eq_ok h).2
    exact honoursRetries hdelay (by omega) net

-- A host that answers from a given attempt on.
def answersFrom (first : Nat) : Network := fun _ attempt =>
  if attempt < first then .error "no answer" else .ok "page"

-- Its page is to be asked for three times.
def patientConfig : RuleSet.Config := [("url", .str "http://[::1]/"), ("retries", .ofNat 2)]

def patient : RuleSet := ⟨"http://[::1]/", [], 1.0, 30.0, 2, []⟩

theorem ofConfig_patient : RuleSet.ofConfig patientConfig = .ok patient := by rfl

theorem retries_honoured_third : RuleSet.ofConfig patientConfig = .ok patient ∧
    fetchPage (answersFrom 3) patient =
      ⟨[.asked 1, .waited 1.0, .asked 2, .waited 1.0, .asked 3], .ok "page"⟩ := by
  have hhonours := (retries_honoured_iff ofConfig_patient).1.mpr (by decide) (answersFrom 3)
  have hfails : ∀ j < 2, Fails (answersFrom 3) patient (j + 1) := by
    intro j hj
    obtain rfl | rfl : j = 0 ∨ j = 1 := by omega
    · exact ⟨"no answer", by rfl⟩
    · exact ⟨"no answer", by rfl⟩
  exact ⟨ofConfig_patient, hhonours.first 2 (by decide) "page" hfails (by rfl)⟩

-- As many retries as there can be, and a page that no attempt can get.
def lastingConfig : RuleSet.Config :=
  [("url", .str "ftp://[::1]/"), ("retries", .ofNat 4294967295)]

def lasting : RuleSet := ⟨"ftp://[::1]/", [], 1.0, 30.0, 4294967295, []⟩

theorem ofConfig_lasting : RuleSet.ofConfig lastingConfig = .ok lasting := by rfl

def notAllowed : String :=
  "builder error for url (ftp://[::1]/): URL scheme is not allowed"

theorem fetchOnce_lasting (net : Network) (attempt : Nat) :
    fetchOnce net lasting.url attempt = .error notAllowed := by
  rfl

-- All attempts fail, and only one of them is made.
theorem retries_lost : RuleSet.ofConfig lastingConfig = .ok lasting ∧
    (∀ attempt, Fails (answersFrom 1) lasting attempt) ∧
    fetchPage (answersFrom 1) lasting =
      ⟨[.asked 1], .error (.told (.fetch "ftp://[::1]/" 1 notAllowed))⟩ ∧
    ¬HonoursRetries (answersFrom 1) lasting := by
  have hfails : ∀ attempt, Fails (answersFrom 1) lasting attempt :=
    fun attempt => ⟨notAllowed, fetchOnce_lasting _ attempt⟩
  have hpage : fetchPage (answersFrom 1) lasting =
      ⟨[.asked 1], .error (.told (.fetch lasting.url 1 notAllowed))⟩ :=
    fetchFrom_last (fetchOnce_lasting (answersFrom 1) 1) (by decide)
  refine ⟨ofConfig_lasting, hfails, hpage, fun hhonours => ?_⟩
  obtain ⟨hattempts, -⟩ := hhonours.all fun j _ => hfails (j + 1)
  rw [hpage] at hattempts
  exact absurd hattempts (by decide)

end Spiderworks.Worker
