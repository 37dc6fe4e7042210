import Spiderworks.Script.Sections
import Spiderworks.Spider.Definition

namespace Spiderworks

-- What runs a program: an interpreter, or a worker that knows how to apply rules.
inductive Launcher where
  | interpreter (command : String)
  | worker (command : String)
  deriving DecidableEq, Repr

structure Program where
  source : String
  extension : String
  launcher : Launcher
  deriving DecidableEq, Repr

def Program.command (p : Program) (path : String) : String × List String :=
  match p.launcher with
  | .interpreter command => (command, [path])
  | .worker command => (command, ["worker", "--ruleset", path])

-- The commands that programs are run with.
structure Launchers where
  interpreter : String
  worker : String
  deriving DecidableEq, Repr

def RuleSetError.synthesisMessage (e : RuleSetError) : String :=
  "Invalid extraction rules: " ++ e.message

-- `override` stands in for the code of a script; rules have none.
def Definition.synthesize (d : Definition) (l : Launchers) (execution : String) (mode : RunMode)
    (override : Option String) : Except RuleSetError Program :=
  match d.kind with
  | .rules =>
    (RuleSet.ofConfig d.config).map fun rules =>
      let program : Worker.Program := ⟨d.id, execution, mode, rules⟩
      ⟨program.text, "json", .worker l.worker⟩
  | .script =>
    let sections := Script.Sections.make mode d.id execution (.obj d.config)
      (override.getD d.code)
    .ok ⟨String.ofList sections.render, "py", .interpreter l.interpreter⟩

end Spiderworks
