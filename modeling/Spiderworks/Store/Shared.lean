import Spiderworks.Store.Query

namespace Spiderworks

open Time (Instant)

inductive Request where
  | create
  | spider
  | list
  | setStatus
  | countRun
  | countSuccess
  | countError
  | appendLog
  | appendLogs
  | spiderLogs
  | executionLogs
  | registerFile
  | findFile
  | spiderFiles
  | setting
  | setSetting
  deriving DecidableEq, Repr

-- `refusal n r` is the reason why the request `r` is refused when it is the one after `n` others.
structure SharedStore where
  store : Store
  refusal : Nat → Request → Option String
  asked : Nat
  poisoned : Bool

def SharedStore.ofStore (s : Store) : SharedStore := ⟨s, fun _ _ => none, 0, false⟩

-- What one party does while it holds the store.
abbrev Session := ExceptT StoreError (StateM SharedStore)

namespace Session

-- Nobody gets hold of a poisoned store.
def hold : Session Unit := do
  if (← get).poisoned then throw .poisoned

def ask {α : Type} (r : Request) (p : Query α) : Session α := do
  let s ← get
  match s.refusal s.asked r with
  | some reason =>
    set { s with asked := s.asked + 1 }
    throw (.refused reason)
  | none =>
    let (result, store) := p.on s.store
    set { s with asked := s.asked + 1, store := store }
    match result with
    | .ok a => return a
    | .error e => throw e

def create (n : NewSpider) : Session Int := ask .create (Query.create n)

def spider? (id : Int) : Session (Option Spider) := ask .spider (Query.look (·.spider? id))

def list : Session (List Spider) := ask .list (Query.look (·.list))

def setStatus (id : Int) (status : Status) : Session Unit :=
  ask .setStatus (Query.setStatus id status)

def countRun (now : Instant) (id : Int) : Session Unit := ask .countRun (Query.countRun now id)

def countSuccess (id : Int) : Session Unit := ask .countSuccess (Query.countSuccess id)

def countError (id : Int) : Session Unit := ask .countError (Query.countError id)

def appendLog (now : Instant) (n : NewLog) : Session Int := ask .appendLog (Query.appendLog now n)

def appendLogs (entries : List (NewLog × Instant)) : Session Unit :=
  ask .appendLogs (Query.appendLogs entries)

def spiderLogs (spider : Int) (limit : Nat) : Session (List LogEntry) :=
  ask .spiderLogs (Query.look fun s => .ok (s.spiderLogs spider limit))

def executionLogs (execution : String) : Session (List LogEntry) :=
  ask .executionLogs (Query.look fun s => .ok (s.executionLogs execution))

def registerFile (now : Instant) (n : NewFile) : Session Int :=
  ask .registerFile (Query.registerFile now n)

def file? (spider : Int) (path : String) : Session (Option FileEntry) :=
  ask .findFile (Query.look fun s => .ok (s.file? spider path))

def spiderFiles (spider : Int) : Session (List FileEntry) :=
  ask .spiderFiles (Query.look fun s => .ok (s.spiderFiles spider))

def setting? (key : String) : Session (Option String) :=
  ask .setting (Query.look fun s => .ok (s.setting? key))

def setSetting (key value : String) : Session Unit :=
  ask .setSetting (Query.setSetting key value)

end Session

-- What a party finds out, and the store it leaves behind.
def SharedStore.run {α : Type} (s : SharedStore) (p : Session α) :
    Except StoreError α × SharedStore :=
  (ExceptT.run p).run s

end Spiderworks
