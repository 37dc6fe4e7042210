import Spiderworks.Proofs.Store.Writes

namespace Spiderworks.Store

open Time (Instant)

-- What a user may ask of a store. An operation that notes times is given them.
inductive Operation where
  | create (n : NewSpider)
  | spider (id : Int)
  | list
  | setStatus (id : Int) (status : Status)
  | countRun (now : Instant) (id : Int)
  | countSuccess (id : Int)
  | countError (id : Int)
  | appendLog (now : Instant) (n : NewLog)
  | appendLogs (entries : List (NewLog × Instant))
  | spiderLogs (spider : Int) (limit : Nat)
  | executionLogs (execution : String)
  | registerFile (now : Instant) (n : NewFile)
  | file (spider : Int) (path : String)
  | spiderFiles (spider : Int)
  | setting (key : String)
  | setSetting (key value : String)

inductive Answer where
  | done
  | number (id : Int)
  | spider (found : Option Spider)
  | spiders (all : List Spider)
  | logs (entries : List LogEntry)
  | file (found : Option FileEntry)
  | files (entries : List FileEntry)
  | setting (value : Option String)
  deriving DecidableEq

def Operation.session : Operation → Session Answer
  | .create n => .number <$> Session.create n
  | .spider id => .spider <$> Session.spider? id
  | .list => .spiders <$> Session.list
  | .setStatus id status => (fun _ => .done) <$> Session.setStatus id status
  | .countRun now id => (fun _ => .done) <$> Session.countRun now id
  | .countSuccess id => (fun _ => .done) <$> Session.countSuccess id
  | .countError id => (fun _ => .done) <$> Session.countError id
  | .appendLog now n => .number <$> Session.appendLog now n
  | .appendLogs entries => (fun _ => .done) <$> Session.appendLogs entries
  | .spiderLogs owner limit => .logs <$> Session.spiderLogs owner limit
  | .executionLogs execution => .logs <$> Session.executionLogs execution
  | .registerFile now n => .number <$> Session.registerFile now n
  | .file owner path => .file <$> Session.file? owner path
  | .spiderFiles owner => .files <$> Session.spiderFiles owner
  | .setting key => .setting <$> Session.setting? key
  | .setSetting key value => (fun _ => .done) <$> Session.setSetting key value

inductive Step where
  | ask (op : Operation)
  | delete (spider : Int)
  | reopen

-- The answer to a step, and the store it leaves behind. No request is refused for reasons that lie
-- outside the store.
def step (s : Store) : Step → Except StoreError Answer × Store
  | .ask op =>
    let (answer, shared) := (SharedStore.ofStore s).run op.session
    (answer, shared.store)
  | .delete spider => (.ok .done, s.delete spider)
  | .reopen => (.ok .done, s)

def perform (s : Store) (steps : List Step) : Store := steps.foldl (fun s x => (s.step x).2) s

def answers (s : Store) : List Step → List (Except StoreError Answer)
  | [] => []
  | x :: rest => (s.step x).1 :: answers (s.step x).2 rest

variable {s t : Store} {op : Operation} {x : Step} {steps more : List Step}

theorem perform_append (s : Store) (steps more : List Step) :
    s.perform (steps ++ more) = (s.perform steps).perform more := List.foldl_append

theorem perform_cons (s : Store) (x : Step) (more : List Step) :
    s.perform (x :: more) = (s.step x).2.perform more := rfl

theorem answers_append (s : Store) (steps more : List Step) :
    s.answers (steps ++ more) = s.answers steps ++ (s.perform steps).answers more := by
  induction steps generalizing s with
  | nil => rfl
  | cons x steps ih => rw [List.cons_append, answers, answers, ih, perform_cons, List.cons_append]

-- ### Operations

-- What an operation finds out and makes of a store, if it succeeds.
def Operation.apply (s : Store) : Operation → Except StoreError (Answer × Store)
  | .create n => (s.create n).map fun r => (.number r.1, r.2)
  | .spider id => (s.spider? id).map fun found => (.spider found, s)
  | .list => s.list.map fun all => (.spiders all, s)
  | .setStatus id status =>
    (s.update id fun r => { r with status := status.name }).map (.done, ·)
  | .countRun now id => (s.update id fun r =>
      { r with runs := bump r.runs, lastRun := some (String.ofList now.rfc3339) }).map (.done, ·)
  | .countSuccess id =>
    (s.update id fun r => { r with successes := bump r.successes }).map (.done, ·)
  | .countError id => (s.update id fun r => { r with errors := bump r.errors }).map (.done, ·)
  | .appendLog now n => (s.appendLog now n).map fun r => (.number r.1, r.2)
  | .appendLogs entries => (s.appendLogs entries).map (.done, ·)
  | .spiderLogs owner limit => .ok (.logs (s.spiderLogs owner limit), s)
  | .executionLogs execution => .ok (.logs (s.executionLogs execution), s)
  | .registerFile now n => (s.registerFile now n).map fun r => (.number r.1, r.2)
  | .file owner path => .ok (.file (s.file? owner path), s)
  | .spiderFiles owner => .ok (.files (s.spiderFiles owner), s)
  | .setting key => .ok (.setting (s.setting? key), s)
  | .setSetting key value => .ok (.done, s.setSetting key value)

-- What a step is when its operation finds this out and leaves nothing where it fails.
def settled (s : Store) : Except StoreError (Answer × Store) → Except StoreError Answer × Store
  | .ok (a, t) => (.ok a, t)
  | .error e => (.error e, s)

section

variable {α : Type} {r : Request} {p : Session α}

theorem step_of_attempt {f : Store → Except StoreError (α × Store)} {g : α → Answer}
    (hp : p = Session.attempt r f) (s : Store) (op : Operation) (h : op.session = g <$> p) :
    s.step (.ask op) = settled s ((f s).map fun found => (g found.1, found.2)) := by
  have hask := SharedStore.run_attempt (SharedStore.ofStore s) r f
  simp only [step, h, hp, map_eq_pure_bind, SharedStore.run_bind, hask]
  simp only [SharedStore.ofStore]
  rcases f s with _ | ⟨a, t⟩ <;> rfl

theorem step_of_tell {p : Session Unit} {f : Store → Except StoreError Store} {g : Unit → Answer}
    (hp : p = Session.tell r f) (s : Store) (op : Operation) (h : op.session = g <$> p) :
    s.step (.ask op) = settled s ((f s).map (g (), ·)) :=
  (step_of_attempt hp s op h).trans (congrArg (settled s) (map_map ..))

theorem step_of_look {f : Store → Except StoreError α} {g : α → Answer}
    (hp : p = Session.look r f) (s : Store) (op : Operation) (h : op.session = g <$> p) :
    s.step (.ask op) = settled s ((f s).map (g ·, s)) :=
  (step_of_attempt hp s op h).trans (congrArg (settled s) (map_map ..))

end

-- Every operation is a single request, none of which leaves anything where it fails: statements
-- take back what they have changed, and the batch is a transaction.
theorem step_ask (s : Store) (op : Operation) : s.step (.ask op) = settled s (op.apply s) := by
  cases op with
  | create n => exact step_of_attempt (Session.create_eq n) s (.create n) rfl
  | spider id => exact step_of_look (Session.spider?_eq id) s (.spider id) rfl
  | list => exact step_of_look Session.list_eq s .list rfl
  | setStatus id status =>
      exact step_of_tell (Session.setStatus_eq id status) s (.setStatus id status) rfl
  | countRun now id => exact step_of_tell (Session.countRun_eq now id) s (.countRun now id) rfl
  | countSuccess id => exact step_of_tell (Session.countSuccess_eq id) s (.countSuccess id) rfl
  | countError id => exact step_of_tell (Session.countError_eq id) s (.countError id) rfl
  | appendLog now n => exact step_of_attempt (Session.appendLog_eq now n) s (.appendLog now n) rfl
  | appendLogs entries =>
      exact step_of_tell (Session.appendLogs_eq entries) s (.appendLogs entries) rfl
  | spiderLogs owner limit =>
      exact step_of_look (Session.spiderLogs_eq owner limit) s (.spiderLogs owner limit) rfl
  | executionLogs execution =>
      exact step_of_look (Session.executionLogs_eq execution) s (.executionLogs execution) rfl
  | registerFile now n =>
      exact step_of_attempt (Session.registerFile_eq now n) s (.registerFile now n) rfl
  | file owner path => exact step_of_look (Session.file?_eq owner path) s (.file owner path) rfl
  | spiderFiles owner =>
      exact step_of_look (Session.spiderFiles_eq owner) s (.spiderFiles owner) rfl
  | setting key => exact step_of_look (Session.setting?_eq key) s (.setting key) rfl
  | setSetting key value =>
      exact step_of_tell (Session.setSetting_eq key value) s (.setSetting key value) rfl

-- ### Operations that fail

theorem step_error {e : StoreError} (h : (s.step (.ask op)).1 = .error e) :
    (s.step (.ask op)).2 = s := by
  rw [step_ask] at h ⊢
  cases hop : op.apply s with
  | error e => rfl
  | ok found =>
      rw [hop] at h
      cases h

theorem length_answers (s : Store) (steps : List Step) :
    (s.answers steps).length = steps.length := by
  induction steps generalizing s with
  | nil => rfl
  | cons x rest ih => rw [answers, List.length_cons, List.length_cons, ih]

-- Entries that are fine do not help a later one whose spider is missing.
theorem appendLogs_missing {entries : List (NewLog × Instant)} {entry : NewLog × Instant}
    (hentry : entry ∈ entries) (hid : s.has entry.1.spider = false) :
    s.appendLogs entries = .error .noSuchOwner := by
  induction entries generalizing s with
  | nil => cases hentry
  | cons first rest ih =>
      rw [appendLogs]
      cases hfirst : s.has first.1.spider with
      | false =>
          rw [appendLog, hfirst]
          rfl
      | true =>
          have hrest : entry ∈ rest := by
            refine (List.mem_cons.mp hentry).resolve_left fun heq => ?_
            rw [heq, hfirst] at hid
            cases hid
          rw [appendLog_eq first.2 hfirst]
          exact ih (s := s.logged first.2 first.1) hrest hid

-- What is asked after an operation that has failed is answered as if nobody had asked for it, and
-- leaves the same store. A batch of log entries fails as a whole, wherever the entry stands that
-- has no spider.
theorem failed_untraced :
    (∀ (s : Store) (before later : List Step) (op : Operation) (e : StoreError),
      ((s.perform before).step (.ask op)).1 = .error e →
      (s.answers (before ++ .ask op :: later)).eraseIdx before.length =
        s.answers (before ++ later) ∧
      s.perform (before ++ .ask op :: later) = s.perform (before ++ later)) ∧
    ∀ (s : Store) (first others : List (NewLog × Instant)) (entry : NewLog × Instant),
      s.has entry.1.spider = false →
      s.step (.ask (.appendLogs (first ++ entry :: others))) = (.error .noSuchOwner, s) := by
  constructor
  · intro s before later op e h
    have hsame := step_error h
    constructor
    · rw [answers_append, answers_append, answers, hsame,
        List.eraseIdx_append_of_length_le (Nat.le_of_eq (length_answers s before)), length_answers,
        Nat.sub_self, List.eraseIdx_cons_zero]
    · rw [perform_append, perform_append, perform_cons, hsame]
  · intro s first others entry hid
    have hfails : s.appendLogs (first ++ entry :: others) = .error .noSuchOwner :=
      appendLogs_missing (List.mem_append_right first List.mem_cons_self) hid
    rw [step_ask, Operation.apply, hfails]
    rfl

def newsCreated : Step := .ask (.create ⟨"news", none, "", "null"⟩)

def noted (spider : Int) : NewLog := ⟨spider, .info, .user, "noted", none⟩

-- Three entries, the second of which has no spider.
def mixedBatch : List (NewLog × Instant) :=
  [(noted 1, ⟨0, 0⟩), (noted 7, ⟨1, 0⟩), (noted 1, ⟨2, 0⟩)]

-- The entry after them gets the first number.
theorem failed_untraced_batch :
    (empty.answers [newsCreated, .ask (.appendLogs mixedBatch),
      .ask (.appendLog ⟨3, 0⟩ (noted 1))]).eraseIdx 1 = [.ok (.number 1), .ok (.number 1)] ∧
    (empty.perform [newsCreated]).step (.ask (.appendLogs mixedBatch)) =
      (.error .noSuchOwner, empty.perform [newsCreated]) :=
  ⟨(failed_untraced.1 empty [newsCreated] [.ask (.appendLog ⟨3, 0⟩ (noted 1))] _ _ rfl).1,
    failed_untraced.2 (empty.perform [newsCreated]) [(noted 1, ⟨0, 0⟩)] [(noted 1, ⟨2, 0⟩)]
      (noted 7, ⟨1, 0⟩) rfl⟩

end Spiderworks.Store
