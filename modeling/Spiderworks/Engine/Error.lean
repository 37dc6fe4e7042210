import Spiderworks.Disk.Basic
import Spiderworks.Engine.RateLimit
import Spiderworks.Spider.Synthesis
import Spiderworks.Store.Record

namespace Spiderworks

inductive EngineError where
  | alreadyRunning (spider : Int)
  | notRunning (spider : Int)
  | notFound (spider : Int)
  | rateLimited (spider : Int) (remaining : Nat) (next : Time.Instant) (minutes : Nat)
  | synthesis (e : RuleSetError)
  | spawn (command : String) (e : IoError)
  | storage (e : StoreError)
  | io (e : IoError)

-- Seconds without a fraction, read off the whole milliseconds; a half goes to the even neighbour.
def wholeSeconds (nanos : Nat) : Nat :=
  let ms := nanos / 1000000
  let down := ms / 1000
  let rest := ms % 1000
  if rest < 500 then down
  else if 500 < rest then down + 1
  else down + down % 2

def spiderText (spider : Int) : String := "Spider " ++ String.ofList (Text.ofInt spider)

def EngineError.message : EngineError → String
  | .alreadyRunning spider => spiderText spider ++ " is already running"
  | .notRunning spider => spiderText spider ++ " is not running"
  | .notFound spider => spiderText spider ++ " not found"
  | .rateLimited spider remaining next _ =>
    spiderText spider ++ " was called too recently, retry in " ++
      String.ofList (Text.ofNat (wholeSeconds remaining)) ++ "s (at " ++
      String.ofList next.rfc3339 ++ ")"
  | .synthesis e => "Code synthesis failed: " ++ e.synthesisMessage
  | .spawn command e => "Failed to spawn " ++ command ++ ": " ++ e.message
  | .storage e => "Storage error: " ++ e.message
  | .io e => "IO error: " ++ e.message

end Spiderworks
