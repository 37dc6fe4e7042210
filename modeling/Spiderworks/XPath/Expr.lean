namespace Spiderworks.XPath

inductive Axis where
  | ancestor
  | ancestorOrSelf
  | attribute
  | child
  | descendant
  | descendantOrSelf
  | following
  | followingSibling
  | «namespace»
  | parent
  | preceding
  | precedingSibling
  | itself
  deriving DecidableEq, Repr

-- A name may have a vocabulary in front; none is ever declared.
inductive NodeTest where
  | node
  | text
  | comment
  | instruction
  | any (space : Option String)
  | name (space : Option String) (local_ : String)
  deriving DecidableEq, Repr

inductive Operator where
  | or
  | and
  | equal
  | notEqual
  | less
  | lessOrEqual
  | greater
  | greaterOrEqual
  | plus
  | minus
  | times
  | divide
  | remainder
  | union
  deriving DecidableEq, Repr

mutual
inductive Expr where
  | root
  | context
  | number (x : Float)
  | text (s : String)
  | variable (name : String)
  | call (name : String) (arguments : List Expr)
  | binary (op : Operator) (left right : Expr)
  | negative (e : Expr)
  | filter (e : Expr) (predicate : Expr)
  | path (start : Expr) (steps : List Step)

inductive Step where
  | mk (axis : Axis) (test : NodeTest) (predicates : List Expr)
end

end Spiderworks.XPath
