import Spiderworks.Page.Tree

namespace Spiderworks.Page

-- Elements that never have an end tag.
def voidNames : List String :=
  ["area", "base", "basefont", "bgsound", "br", "col", "embed", "frame", "hr", "img", "input",
    "keygen", "link", "meta", "param", "source", "track", "wbr"]

-- Elements whose text is written without references.
def rawNames : List String :=
  ["style", "script", "xmp", "iframe", "noembed", "noframes", "plaintext"]

def escapeText (c : Char) : List Char :=
  match c with
  | '&' => "&amp;".toList
  | '\u00a0' => "&nbsp;".toList
  | '<' => "&lt;".toList
  | '>' => "&gt;".toList
  | c => [c]

def escapeValue (c : Char) : List Char :=
  match c with
  | '&' => "&amp;".toList
  | '\u00a0' => "&nbsp;".toList
  | '"' => "&quot;".toList
  | c => [c]

def AttributeSpace.start : AttributeSpace → List Char
  | .none => []
  | .xlink => "xlink:".toList
  | .xml => "xml:".toList
  | .xmlns => "xmlns:".toList

def Attribute.html (a : Attribute) : List Char :=
  let start := if a.space = .xmlns ∧ a.name = "xmlns" then [] else a.space.start
  ' ' :: start ++ a.name.toList ++ '=' :: '"' :: a.value.toList.flatMap escapeValue ++ ['"']

-- It is assumed that an element always shows its attributes in one order, that of its list. A reader
-- that keeps them in a table may show them in another one.
def Element.openTag (e : Element) : List Char :=
  '<' :: e.name.toList ++ e.attributes.flatMap Attribute.html ++ ['>']

def Element.closeTag (e : Element) : List Char := '<' :: '/' :: e.name.toList ++ ['>']

def Element.isVoid (e : Element) : Bool := e.space == .html && voidNames.contains e.name

def Element.isRaw (e : Element) : Bool := e.space == .html && rawNames.contains e.name

-- `raw` says that text is written as it is.
mutual
def Node.html (raw : Bool) : Node → List Char
  | .element e children =>
    if e.isVoid then e.openTag else e.openTag ++ htmlOf e.isRaw children ++ e.closeTag
  | .contents children => htmlOf false children
  | .text s => if raw then s.toList else s.toList.flatMap escapeText
  | .comment s => "<!--".toList ++ s.toList ++ "-->".toList
termination_by structural n => n

def htmlOf (raw : Bool) : List Node → List Char
  | [] => []
  | n :: ns => n.html raw ++ htmlOf raw ns
termination_by structural ns => ns
end

end Spiderworks.Page
