namespace Spiderworks

inductive Ending where
  | exited (code : Nat)
  | signalled (signal : Nat)
  | other
  deriving DecidableEq, Repr, Inhabited

namespace Ending

-- The low seven bits of a wait status are 0 for a process that has exited, 127 for one that has not
-- ended, and else the signal. The code is in the next byte but one bit.
def ofWaitStatus (raw : Int) : Ending :=
  let low := (raw % 128).toNat
  if low = 0 then .exited (raw / 256 % 256).toNat
  else if low = 127 then .other
  else .signalled low

def code : Ending → Int
  | .exited code => code
  | .signalled signal => -signal
  | .other => -1

end Ending

end Spiderworks
