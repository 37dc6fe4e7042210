import Spiderworks.Html.Arena
import Spiderworks.Html.Token

namespace Spiderworks.Html

open Spiderworks.Page (Space Attribute)

-- An open element.
structure Open where
  id : Nat
  space : Space
  name : String
  deriving DecidableEq, Repr, Inhabited

-- The part of the page that the rules are in.
inductive Mode where
  | initial
  | beforeHtml
  | beforeHead
  | inHead
  | afterHead
  | inBody
  | text
  | inTable
  | inTableText
  | inCaption
  | inColumnGroup
  | inTableBody
  | inRow
  | inCell
  | inSelect
  | inSelectInTable
  | inTemplate
  | afterBody
  | inFrameset
  | afterFrameset
  | afterAfterBody
  | afterAfterFrameset
  deriving DecidableEq, Repr, Inhabited

-- Formatting elements are opened again after an element that cut them off. A marker keeps those
-- before it out.
inductive Formatting where
  | marker
  | element (id : Nat) (tag : Tag)
  deriving DecidableEq, Repr, Inhabited

-- `stack` and `formatting` have the innermost entry first, `pending` the last character.
structure Builder where
  arena : Arena
  stack : List Open
  formatting : List Formatting
  mode : Mode
  textReturn : Mode
  templateModes : List Mode
  head : Option Open
  form : Option Nat
  framesetAllowed : Bool
  oldLayout : Bool
  fostering : Bool
  pending : List Char
  skipLineFeed : Bool
  content : Content

-- What becomes of a token: it is used up, or goes to the rules of another mode.
inductive Outcome where
  | done
  | again (mode : Mode) (token : Token)

namespace Builder

def start : Builder where
  arena := Arena.empty
  stack := []
  formatting := []
  mode := .initial
  textReturn := .inBody
  templateModes := []
  head := none
  form := none
  framesetAllowed := true
  oldLayout := false
  fostering := false
  pending := []
  skipLineFeed := false
  content := .data

abbrev Build := StateM Builder

def isHtml (names : List String) (o : Open) : Bool := o.space == .html && names.contains o.name

def current? : Build (Option Open) := return (← get).stack.head?

def currentIs (names : List String) : Build Bool := return (← current?).any (isHtml names)

def setMode (mode : Mode) : Build Unit := modify fun b => { b with mode := mode }

def disallowFrameset : Build Unit := modify fun b => { b with framesetAllowed := false }

def push (o : Open) : Build Unit := modify fun b => { b with stack := o :: b.stack }

def pop : Build Unit := modify fun b => { b with stack := b.stack.tail }

def setStack (stack : List Open) : Build Unit := modify fun b => { b with stack := stack }

def dropOpen (id : Nat) : Build Unit :=
  modify fun b => { b with stack := b.stack.eraseP (·.id == id) }

-- Closes elements up to and including the first one that satisfies `p`.
def popThrough (p : Open → Bool) : Build Unit :=
  modify fun b => { b with stack := (b.stack.dropWhile (!p ·)).tail }

def popThroughName (name : String) : Build Unit := popThrough (isHtml [name])

-- Closes elements down to one of these, which stays open.
def popTo (names : List String) : Build Unit :=
  modify fun b => { b with stack := b.stack.dropWhile (!isHtml names ·) }

def hasTemplate : Build Bool := return (← get).stack.any (isHtml ["template"])

-- ### Scopes

def isMathText (o : Open) : Bool :=
  o.space == .mathml && ["mi", "mo", "mn", "ms", "mtext"].contains o.name

def isSvgHtml (o : Open) : Bool :=
  o.space == .svg && ["foreignObject", "desc", "title"].contains o.name

def endsScope (o : Open) : Bool :=
  isHtml ["applet", "caption", "html", "table", "td", "th", "marquee", "object", "template"] o ||
    isMathText o || isSvgHtml o

def endsListScope (o : Open) : Bool := endsScope o || isHtml ["ol", "ul"] o

def endsButtonScope (o : Open) : Bool := endsScope o || isHtml ["button"] o

def endsTableScope (o : Open) : Bool := isHtml ["html", "table", "template"] o

def endsSelectScope (o : Open) : Bool := !isHtml ["optgroup", "option"] o

-- Whether an open element that satisfies `p` is met before one that ends the scope.
def reaches (ends p : Open → Bool) : List Open → Bool
  | [] => false
  | o :: rest => p o || (!ends o && reaches ends p rest)

def inScope (ends : Open → Bool) (names : List String) : Build Bool :=
  return reaches ends (isHtml names) (← get).stack

-- ### Implied ends

def impliedEnds : List String :=
  ["dd", "dt", "li", "option", "optgroup", "p", "rb", "rp", "rt", "rtc"]

def thoroughImpliedEnds : List String :=
  impliedEnds ++ ["caption", "colgroup", "tbody", "td", "tfoot", "th", "thead", "tr"]

def closeImplied (names : List String) : Build Unit :=
  modify fun b => { b with stack := b.stack.dropWhile (isHtml names) }

def closeImpliedExcept (name : String) : Build Unit := closeImplied (impliedEnds.erase name)

def closeParagraph : Build Unit := do
  closeImpliedExcept "p"
  popThroughName "p"

def closeParagraphInScope : Build Unit := do
  if ← inScope endsButtonScope ["p"] then closeParagraph

-- ### Insertion

-- A place in the tree: at the end of a cell, or before a cell if it is still in the tree.
inductive Place where
  | inside (id : Nat)
  | before (sibling instead : Nat)

-- The cell that takes the children of an open element.
def holder (arena : Arena) (o : Open) : Nat :=
  if isHtml ["template"] o then arena.contentsOf o.id else o.id

-- Misplaced content of a table goes before the table.
def fosterPlace (arena : Arena) : List Open → Place
  | [] => .inside 0
  | [root] => .inside root.id
  | o :: below :: rest =>
    if isHtml ["template"] o then .inside (holder arena o)
    else if isHtml ["table"] o then .before o.id below.id
    else fosterPlace arena (below :: rest)

def placeIn (b : Builder) (target : Open) : Place :=
  if b.fostering && isHtml ["table", "tbody", "tfoot", "thead", "tr"] target then
    fosterPlace b.arena b.stack
  else .inside (holder b.arena target)

def place (b : Builder) : Place :=
  match b.stack.head? with
  | some o => placeIn b o
  | none => .inside 0

def putCell (arena : Arena) (place : Place) (id : Nat) : Arena :=
  match place with
  | .inside parent => arena.append parent id
  | .before sibling instead =>
    if (arena.parent? sibling).isSome then arena.insertBefore sibling id
    else arena.append instead id

def addText (c : Char) : Build Unit :=
  modify fun b => { b with
    arena := match place b with
      | .inside parent => b.arena.appendText parent c
      | .before sibling instead =>
        if (b.arena.parent? sibling).isSome then b.arena.textBefore sibling c
        else b.arena.appendText instead c }

def addComment (s : String) : Build Unit :=
  modify fun b =>
    let (id, arena) := b.arena.create (.comment s)
    { b with arena := putCell arena (place b) id }

def addCommentTo (parent : Nat) (s : String) : Build Unit :=
  modify fun b =>
    let (id, arena) := b.arena.create (.comment s)
    { b with arena := arena.append parent id }

-- A new element that is nowhere in the tree yet. A template comes with a cell for its contents.
def create (space : Space) (name : String) (attributes : List Attribute) : Build Open :=
  modifyGet fun b =>
    let (id, arena) := b.arena.create (.element space name attributes)
    let arena :=
      if space == .html && name == "template" then
        let (contents, arena) := arena.create .contents
        arena.append id contents
      else arena
    (⟨id, space, name⟩, { b with arena := arena })

def insertIn (space : Space) (name : String) (attributes : List Attribute) : Build Open := do
  let o ← create space name attributes
  modify fun b => { b with arena := putCell b.arena (place b) o.id }
  return o

-- An element that stays open.
def insert (tag : Tag) : Build Unit := do push (← insertIn .html tag.name tag.attributes)

def insertPlain (name : String) : Build Unit := insert ⟨name, [], false⟩

-- An element without contents.
def insertClosed (tag : Tag) : Build Unit := do
  let _ ← insertIn .html tag.name tag.attributes

-- An element whose text is read up to its end tag.
def insertRaw (tag : Tag) (content : Content) : Build Unit := do
  insert tag
  modify fun b => { b with textReturn := b.mode, mode := .text, content := content }

-- ### Choosing the mode again

def resetSelect : List Open → Mode
  | [] => .inSelect
  | o :: rest =>
    if isHtml ["template"] o then .inSelect
    else if isHtml ["table"] o then .inSelectInTable
    else resetSelect rest

-- The mode that the open elements ask for.
def modeOf (b : Builder) : List Open → Mode
  | [] => .inBody
  | o :: rest =>
    if o.space != .html then modeOf b rest
    else match o.name with
      | "select" => resetSelect rest
      | "td" | "th" => if rest.isEmpty then modeOf b rest else .inCell
      | "tr" => .inRow
      | "tbody" | "thead" | "tfoot" => .inTableBody
      | "caption" => .inCaption
      | "colgroup" => .inColumnGroup
      | "table" => .inTable
      | "template" => b.templateModes.head?.getD .inTemplate
      | "head" => if rest.isEmpty then modeOf b rest else .inHead
      | "body" => .inBody
      | "frameset" => .inFrameset
      | "html" => if b.head.isSome then .afterHead else .beforeHead
      | _ => modeOf b rest

def resetMode : Build Mode := return modeOf (← get) (← get).stack

end Builder

end Spiderworks.Html
