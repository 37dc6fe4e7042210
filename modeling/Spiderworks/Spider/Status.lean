namespace Spiderworks

inductive Status where
  | inactive
  | running
  | error
  | stopped
  deriving DecidableEq, Repr, Inhabited

namespace Status

def all : List Status := [.inactive, .running, .error, .stopped]

def name : Status → String
  | .inactive => "inactive"
  | .running => "running"
  | .error => "error"
  | .stopped => "stopped"

def ofName? (s : String) : Option Status := all.find? (·.name == s)

-- The end of a run leaves a terminal status behind.
def isTerminal (s : Status) : Bool := s != .running

def isError (s : Status) : Bool := s == .error

-- What a process leaves behind that ends with this code.
def ofExitCode (code : Int) : Status := if code = 0 then .inactive else .error

theorem ofName?_name (s : Status) : ofName? s.name = some s := by cases s <;> decide

end Status

-- A run begins in `running`. A request to stop takes it to `stopping`; the end of its process takes
-- it to `finishing`. Whichever claim comes first decides who writes the final status.
inductive Phase where
  | running
  | stopping
  | finishing
  deriving DecidableEq, Repr, Inhabited

namespace Phase

def all : List Phase := [.running, .stopping, .finishing]

def name : Phase → String
  | .running => "running"
  | .stopping => "stopping"
  | .finishing => "finishing"

def acceptsStop (p : Phase) : Bool := p != .finishing

end Phase

end Spiderworks
