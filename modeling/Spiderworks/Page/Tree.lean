namespace Spiderworks

namespace Page

-- The vocabulary an element belongs to.
inductive Space where
  | html
  | svg
  | mathml
  deriving DecidableEq, Repr, Inhabited

inductive AttributeSpace where
  | none
  | xlink
  | xml
  | xmlns
  deriving DecidableEq, Repr, Inhabited

structure Attribute where
  space : AttributeSpace
  name : String
  value : String
  deriving DecidableEq, Repr, Inhabited

-- Elements carry the order in which they came into being, which need not be their order in the
-- tree. The order of the attributes is that of the reader of the page and otherwise free: what is
-- said about all pages is said for every order.
structure Element where
  space : Space
  name : String
  attributes : List Attribute
  created : Nat
  deriving DecidableEq, Repr, Inhabited

-- The contents of a template stand below the template, but belong to a document of their own.
inductive Node where
  | element (e : Element) (children : List Node)
  | contents (children : List Node)
  | text (s : String)
  | comment (s : String)

-- The value of the attribute without a vocabulary of that name.
def Element.attribute? (e : Element) (name : String) : Option String :=
  (e.attributes.find? fun a => a.space == .none && a.name == name).map (·.value)

-- All text at or below a node, in document order.
mutual
def Node.textChars : Node → List Char
  | .element _ children => textCharsOf children
  | .contents children => textCharsOf children
  | .text s => s.toList
  | .comment _ => []
termination_by structural n => n

def textCharsOf : List Node → List Char
  | [] => []
  | n :: ns => n.textChars ++ textCharsOf ns
termination_by structural ns => ns
end

end Page

-- `loose` holds the subtrees that were taken out of the page while it was read.
structure Page where
  root : Page.Element
  children : List Page.Node
  loose : List Page.Node

end Spiderworks
