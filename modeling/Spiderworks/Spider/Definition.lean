import Spiderworks.Json.Printer
import Spiderworks.Json.Reader
import Spiderworks.Store.Record

namespace Spiderworks

inductive SpiderKind where
  | script
  | rules
  deriving DecidableEq, Repr, Inhabited

-- A spider to be created. Its configuration is kept as compact text.
def NewSpider.ofConfig (name : String) (description : Option String) (code : String)
    (config : Json) : NewSpider := ⟨name, description, code, Json.compact config⟩

-- `config` holds the entries of the configuration object.
structure Definition where
  id : Int
  name : String
  code : String
  config : List (String × Json)

namespace Definition

-- Text that is no JSON object counts as an empty one.
def configOf (text : String) : List (String × Json) :=
  match Json.read? text with
  | some (.obj entries) => entries
  | _ => []

def kind (d : Definition) : SpiderKind :=
  match Entries.get? d.config "type" with
  | some (.str "rules") => .rules
  | _ => .script

end Definition

def Spider.definition (s : Spider) : Definition :=
  ⟨s.id, s.name, s.code, Definition.configOf s.config⟩

end Spiderworks
