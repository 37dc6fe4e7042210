import Spiderworks.Page.Tree

namespace Spiderworks.Html

open Spiderworks.Page (Space Attribute Element Node)

inductive Kind where
  | document
  | element (space : Space) (name : String) (attributes : List Attribute)
  | contents
  | text (s : String)
  | comment (s : String)
  deriving Inhabited

structure Cell where
  kind : Kind
  parent : Option Nat
  children : Array Nat
  deriving Inhabited

-- Cells refer to each other by number, and cell 0 is the document. Cells are never taken back, so
-- their numbers are the order of creation.
structure Arena where
  cells : Array Cell

namespace Arena

def empty : Arena := ⟨#[⟨.document, none, #[]⟩]⟩

def create (a : Arena) (kind : Kind) : Nat × Arena :=
  (a.cells.size, ⟨a.cells.push ⟨kind, none, #[]⟩⟩)

def cell? (a : Arena) (id : Nat) : Option Cell := a.cells[id]?

def kind (a : Arena) (id : Nat) : Kind := (a.cell? id).elim .document (·.kind)

def parent? (a : Arena) (id : Nat) : Option Nat := (a.cell? id).bind (·.parent)

def children (a : Arena) (id : Nat) : Array Nat := (a.cell? id).elim #[] (·.children)

def update (a : Arena) (id : Nat) (f : Cell → Cell) : Arena := ⟨a.cells.modify id f⟩

-- Takes a cell out of its parent, with everything below it.
def detach (a : Arena) (id : Nat) : Arena :=
  match a.parent? id with
  | none => a
  | some p =>
    let a := a.update p fun c => { c with children := c.children.filter (· != id) }
    a.update id fun c => { c with parent := none }

def append (a : Arena) (parent child : Nat) : Arena :=
  let a := a.detach child
  let a := a.update parent fun c => { c with children := c.children.push child }
  a.update child fun c => { c with parent := some parent }

def insertAt (xs : Array Nat) (i x : Nat) : Array Nat :=
  (xs.toList.take i ++ x :: xs.toList.drop i).toArray

-- Puts a cell right before another one, which has a parent.
def insertBefore (a : Arena) (sibling child : Nat) : Arena :=
  let a := a.detach child
  match a.parent? sibling with
  | none => a
  | some p =>
    let a := a.update p fun c =>
      { c with children := insertAt c.children (c.children.idxOf sibling) child }
    a.update child fun c => { c with parent := some p }

def isText (a : Arena) (id : Nat) : Bool :=
  match a.kind id with
  | .text _ => true
  | _ => false

def addText (a : Arena) (id : Nat) (c : Char) : Arena :=
  a.update id fun cell =>
    match cell.kind with
    | .text s => { cell with kind := .text (s.push c) }
    | _ => cell

-- Text goes to the end of a text that stands there already.
def appendText (a : Arena) (parent : Nat) (c : Char) : Arena :=
  match (a.children parent).back? with
  | some last =>
    if a.isText last then a.addText last c
    else
      let (id, a) := a.create (.text (String.singleton c))
      a.append parent id
  | none =>
    let (id, a) := a.create (.text (String.singleton c))
    a.append parent id

def textBefore (a : Arena) (sibling : Nat) (c : Char) : Arena :=
  match a.parent? sibling with
  | none => a
  | some p =>
    let siblings := a.children p
    let i := siblings.idxOf sibling
    let new :=
      let (id, a) := a.create (.text (String.singleton c))
      a.insertBefore sibling id
    if i = 0 then new
    else match siblings[i - 1]? with
      | some previous => if a.isText previous then a.addText previous c else new
      | none => new

-- All children move to the end of another cell.
def moveChildren (a : Arena) (source target : Nat) : Arena :=
  (a.children source).foldl (fun a child => a.append target child) a

-- Names that are there already keep their values.
def addAttributes (a : Arena) (id : Nat) (new : List Attribute) : Arena :=
  a.update id fun cell =>
    match cell.kind with
    | .element space name old =>
      let missing := new.filter fun n => !old.any fun o => o.space == n.space && o.name == n.name
      { cell with kind := .element space name (old ++ missing) }
    | _ => cell

-- The cell that receives the contents of a template.
def contentsOf (a : Arena) (id : Nat) : Nat :=
  match (a.children id)[0]? with
  | some first =>
    match a.kind first with
    | .contents => first
    | _ => id
  | none => id

-- No branch is longer than the number of cells.
def nodeOf (a : Arena) : Nat → Nat → Node
  | 0, _ => .text ""
  | fuel + 1, id =>
    let children := (a.children id).toList.map (nodeOf a fuel)
    match a.kind id with
    | .document => .contents children
    | .element space name attributes => .element ⟨space, name, attributes, id⟩ children
    | .contents => .contents children
    | .text s => .text s
    | .comment s => .comment s

-- The first element of the document is the root of the page. Cells without a parent, other than
-- the document, head the loose subtrees.
def toPage (a : Arena) : Page :=
  let fuel := a.cells.size
  let isElement (n : Node) : Bool := match n with
    | .element _ _ => true
    | _ => false
  let top := (a.children 0).toList.map (nodeOf a fuel)
  let loose := ((List.range a.cells.size).drop 1).filter fun id => (a.parent? id).isNone
  let looseNodes := (loose.map (nodeOf a fuel)).filter isElement
  match top.find? isElement with
  | some (.element e children) => ⟨e, children, looseNodes⟩
  | _ => ⟨⟨.html, "html", [], 1⟩, [], looseNodes⟩

end Arena

end Spiderworks.Html
