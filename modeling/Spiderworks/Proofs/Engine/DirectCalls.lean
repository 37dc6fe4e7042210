import Spiderworks.Proofs.Engine.Refusals
import Spiderworks.Proofs.Engine.Reports

namespace Spiderworks

variable {s : Setup} {h k : Hub} {m : DirectMove}

-- ### Between the two entries

-- Work on the disk, and launches: the store, the registry and the clock are left alone.
structure Hub.Aside (h k : Hub) : Prop where
  shared : k.site.shared = h.site.shared
  registry : k.registry = h.registry
  readings : k.readings = h.readings

namespace Hub.Aside

theorem refl (h : Hub) : h.Aside h := ⟨rfl, rfl, rfl⟩

theorem trans {g : Hub} (hg : h.Aside g) (hk : g.Aside k) : h.Aside k :=
  ⟨hk.shared.trans hg.shared, hk.registry.trans hg.registry, hk.readings.trans hg.readings⟩

theorem removeFile (s : Setup) (path : String) (h : Hub) : h.Aside (h.removeFile s path) := by
  unfold Hub.removeFile
  split <;> exact ⟨rfl, rfl, rfl⟩

end Hub.Aside

namespace DirectCall

variable {c : DirectCall} {d : Definition}

-- The steps of a call that nobody comes between.
def steps (s : Setup) (m : DirectMove) : Nat → DirectCall → Hub → DirectCall × Hub
  | 0, c, h => (c, h)
  | n + 1, c, h => steps s m n (c.step s m h).1 (c.step s m h).2

theorem steps_done {r : Except EngineError DirectResult} (n : Nat) (hc : c.stage = .done r)
    (h : Hub) : steps s m n c h = (c, h) := by
  induction n with
  | zero => rfl
  | succ n ih =>
      obtain ⟨spider, code, x, began, stage⟩ := c
      subst hc
      exact ih

-- What comes of a call that was let in: whatever goes wrong before the process is awaited is told,
-- and otherwise how the process ended.
def attempt (s : Setup) (m : DirectMove) (c : DirectCall) (d : Definition) (disk : Disk) :
    DirectOutcome :=
  match c.prepare s d disk with
  | .error message => .internal message
  | .ok (p, disk) =>
    match s.platform.launch (c.launchOf p) disk with
    | .error e => .internal (EngineError.spawn (c.launchOf p).command e).message
    | .ok child => outcomeOf s child m

end DirectCall

-- ### What is read afterwards

-- The counters of a spider take no more than 32 bits.
structure Spider.Fits (y : Spider) : Prop where
  runs : y.runs < 2 ^ 32
  successes : y.successes < 2 ^ 32
  errors : y.errors < 2 ^ 32

namespace DirectCall

variable {c : DirectCall} {y : Spider}

end DirectCall

namespace Engine

variable {e : Engine} {a : Int} {code : Option String} {i : Nat}

end Engine

end Spiderworks
