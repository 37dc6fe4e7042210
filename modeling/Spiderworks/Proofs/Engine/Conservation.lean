import Mathlib.Algebra.Group.Int.Defs
import Spiderworks.Proofs.Engine.Counters

namespace Spiderworks

open History

variable {s : Setup} {e : Engine} {log : List Event} {a b : Int}

-- ### What is read

namespace Engine

end Engine

end Spiderworks
