namespace Spiderworks

inductive Dialect where
  | css
  | xpath
  deriving DecidableEq, Repr, Inhabited

structure Selector where
  dialect : Dialect
  expression : String
  deriving DecidableEq, Repr, Inhabited

-- What is taken from a match.
inductive Taking where
  | text
  | attribute (name : String)
  | html
  deriving DecidableEq, Repr, Inhabited

structure Rule where
  field : String
  selector : Selector
  taking : Taking
  deriving DecidableEq, Repr, Inhabited

-- A rule without a field or without a selector contributes nothing.
def Rule.isUsable (r : Rule) : Bool := !r.field.isEmpty && !r.selector.expression.isEmpty

def Rule.usesXPath (r : Rule) : Bool := r.selector.dialect == .xpath

end Spiderworks
