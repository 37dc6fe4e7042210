import Spiderworks.Css.Token

namespace Spiderworks.Css

inductive Combinator where
  | child
  | descendant
  | nextSibling
  | laterSibling
  deriving DecidableEq, Repr

inductive Comparison where
  | equal
  | word
  | dash
  | start
  | finish
  | part
  deriving DecidableEq, Repr

-- `asNamed` ignores case for the attributes whose values HTML compares in that way.
inductive LetterCase where
  | exact
  | ignored
  | asNamed
  deriving DecidableEq, Repr

structure AttributeTest where
  anySpace : Bool
  name : String
  value : Option (Comparison × String × LetterCase)
  deriving DecidableEq, Repr

-- Positions are counted from the first or the last sibling, among all elements or among those of
-- the same type; the `step`-th ones from `offset` on are meant.
structure Position where
  fromEnd : Bool
  ofType : Bool
  step : Int
  offset : Int
  deriving DecidableEq, Repr

mutual
-- `nowhere` asks for an element without a vocabulary, and there is none.
inductive Simple where
  | type (name : String)
  | any
  | nowhere
  | id (name : String)
  | class (name : String)
  | attribute (test : AttributeTest)
  | position (p : Position)
  | root
  | empty
  | scope
  | not (alternatives : List Chain)

-- `right` is the element meant, `left` says what stands before or above it.
inductive Chain where
  | one (compound : List Simple)
  | joined (left : Chain) (combinator : Combinator) (right : List Simple)
end

abbrev Selector := List Chain

end Spiderworks.Css
