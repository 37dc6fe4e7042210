import Spiderworks.Page.Tree

namespace Spiderworks.Html

open Spiderworks.Page (Attribute AttributeSpace)

structure Tag where
  name : String
  attributes : List Attribute
  selfClosing : Bool
  deriving DecidableEq, Repr, Inhabited

def Tag.attribute? (t : Tag) (name : String) : Option String :=
  (t.attributes.find? (·.name == name)).map (·.value)

-- `quirky` says that the declaration asks for the layout rules of old browsers.
structure Doctype where
  quirky : Bool
  deriving DecidableEq, Repr, Inhabited

-- NUL is a token of its own, because what becomes of it depends on where it stands.
inductive Token where
  | doctype (d : Doctype)
  | open (t : Tag)
  | close (t : Tag)
  | comment (s : String)
  | char (c : Char)
  | null
  | eof
  deriving DecidableEq, Repr, Inhabited

-- What the text after a start tag consists of.
inductive Content where
  | data
  | escapable (name : String)
  | raw (name : String)
  | script
  | plain
  deriving DecidableEq, Repr, Inhabited

-- The blank characters of the HTML syntax.
def isSpace (c : Char) : Bool := c == ' ' || c == '\t' || c == '\n' || c == '\x0c' || c == '\r'

def isLetter (c : Char) : Bool := ('a' ≤ c && c ≤ 'z') || ('A' ≤ c && c ≤ 'Z')

end Spiderworks.Html
