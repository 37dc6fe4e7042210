import Spiderworks.Css.Parser
import Spiderworks.Page.Spot

namespace Spiderworks.Css

open Spiderworks.Page (Spot Element Space)

-- Attributes whose values are compared without regard to case in HTML elements.
def caselessNames : List String :=
  ["accept", "accept-charset", "align", "alink", "axis", "bgcolor", "charset", "checked", "clear",
    "codetype", "color", "compact", "declare", "defer", "dir", "direction", "disabled", "enctype",
    "face", "frame", "hreflang", "http-equiv", "lang", "language", "link", "media", "method",
    "multiple", "nohref", "noresize", "noshade", "nowrap", "readonly", "rel", "rev", "rules",
    "scope", "scrolling", "selected", "shape", "target", "text", "type", "valign", "valuetype",
    "vlink"]

-- Names are lower case in HTML elements, and only there.
def properName (e : Element) (name : String) : String :=
  if e.space = .html then Text.asciiLowerString name else name

def words (s : List Char) : List (List Char) := s.splitOnP isBlank

def isInfix (part : List Char) : List Char → Bool
  | [] => part.isEmpty
  | c :: s => part.isPrefixOf (c :: s) || isInfix part s

def compares (op : Comparison) (wanted value : List Char) : Bool :=
  match op with
  | .equal => value == wanted
  | .word => !wanted.isEmpty && (words value).contains wanted
  | .dash => value == wanted || (wanted ++ ['-']).isPrefixOf value
  | .start => !wanted.isEmpty && wanted.isPrefixOf value
  | .finish => !wanted.isEmpty && wanted.isSuffixOf value
  | .part => !wanted.isEmpty && isInfix wanted value

def ignoresCase (e : Element) (t : AttributeTest) : LetterCase → Bool
  | .exact => false
  | .ignored => true
  | .asNamed =>
    e.space == .html && !t.anySpace && caselessNames.contains (Text.asciiLowerString t.name)

def AttributeTest.holds (t : AttributeTest) (e : Element) : Bool :=
  e.attributes.any fun a =>
    (t.anySpace || a.space == .none) && a.name == properName e t.name &&
      match t.value with
      | none => true
      | some (op, wanted, c) =>
        if ignoresCase e t c then
          compares op (wanted.toList.map Text.asciiLower) (a.value.toList.map Text.asciiLower)
        else compares op wanted.toList a.value.toList

def sameType (a b : Element) : Bool := a.space == b.space && a.name == b.name

-- The number of elements before the spot, or after it, that are counted with it.
def countBeside (p : Position) (s : Spot) : Nat :=
  let side := if p.fromEnd then s.here.right else s.here.left
  ((Page.elementNodes side).filter fun e => !p.ofType || sameType e s.element).length

def Position.holds (p : Position) (s : Spot) : Bool :=
  let index : Int := countBeside p s + 1
  let distance := index - p.offset
  if distance < -2147483648 ∨ 2147483647 < distance then false
  else if p.step = 0 then distance == 0
  else
    let n := distance.tdiv p.step
    decide (0 ≤ n) && p.step * n == distance

def isEmptyNode (s : Spot) : Bool :=
  !s.here.children.any fun n => match n with
    | .element _ _ | .text _ => true
    | _ => false

def hasClass (e : Element) (name : String) : Bool :=
  match e.attributes.find? (·.name == "class") with
  | some a => (a.value.toList.splitOnP Text.isBlank).contains name.toList
  | none => false

def hasId (e : Element) (name : String) : Bool :=
  (e.attributes.find? (·.name == "id")).any (·.value == name)

def related (c : Combinator) (s : Spot) : List Spot :=
  match c with
  | .child => s.parent?.toList
  | .descendant => s.ancestors
  | .nextSibling => s.earlierSiblings.take 1
  | .laterSibling => s.earlierSiblings

-- `scope` is the element that `:scope` means, by its number.
def isScope (scope : Option Nat) (s : Spot) : Bool :=
  match scope with
  | some created => s.element.created == created
  | none => s.isRoot

mutual
def Simple.holds (scope : Option Nat) (s : Spot) : Simple → Bool
  | .type name => s.element.name == properName s.element name
  | .any => true
  | .nowhere => false
  | .id name => hasId s.element name
  | .class name => hasClass s.element name
  | .attribute test => test.holds s.element
  | .position p => p.holds s
  | .root => s.isRoot
  | .empty => isEmptyNode s
  | .scope => isScope scope s
  | .not alternatives => !anyMatches scope s alternatives
termination_by structural x => x

def allHold (scope : Option Nat) (s : Spot) : List Simple → Bool
  | [] => true
  | x :: xs => x.holds scope s && allHold scope s xs
termination_by structural xs => xs

def Chain.matches (scope : Option Nat) (s : Spot) : Chain → Bool
  | .one compound => allHold scope s compound
  | .joined left c right =>
    allHold scope s right && (related c s).any fun other => left.matches scope other
termination_by structural c => c

def anyMatches (scope : Option Nat) (s : Spot) : List Chain → Bool
  | [] => false
  | c :: cs => c.matches scope s || anyMatches scope s cs
termination_by structural cs => cs
end

def Selector.matches (sel : Selector) (scope : Option Nat) (s : Spot) : Bool :=
  anyMatches scope s sel

end Spiderworks.Css
