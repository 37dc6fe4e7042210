import Spiderworks.Page.Copy

namespace Spiderworks.XPath

open Spiderworks.Page (Copy Mirror)

-- Every element knows the one vocabulary that needs no declaration.
inductive Kind where
  | root
  | element (path : List Nat) (name : String)
  | «namespace»
  | attribute (name value : String)
  | text (s : String)
  deriving DecidableEq, Repr

-- A node is a number, and a smaller number stands earlier in the document: an element, then its
-- attributes, then what is below it. `parent` is the node's own number for the root; `finish` is
-- the first number past the subtree.
structure Row where
  kind : Kind
  parent : Nat
  finish : Nat
  deriving DecidableEq, Repr

instance : Inhabited Row := ⟨⟨.root, 0, 0⟩⟩

def Kind.path? : Kind → Option (List Nat)
  | .element path _ => some path
  | _ => none

def Row.relabel (f : List Nat → List Nat) (r : Row) : Row :=
  match r.kind with
  | .element label name => { r with kind := .element (f label) name }
  | _ => r

mutual
def size : Copy → Nat
  | .element _ _ attributes children => 2 + attributes.length + sizes children
  | .text _ => 1
termination_by structural c => c

def sizes : List Copy → Nat
  | [] => 0
  | c :: cs => size c + sizes cs
termination_by structural cs => cs
end

def attributeRows (parent : Nat) : Nat → List (String × String) → List Row
  | _, [] => []
  | next, (name, value) :: rest =>
    ⟨.attribute name value, parent, next + 1⟩ :: attributeRows parent (next + 1) rest

-- `next` is the number of the first row.
mutual
def rows (parent next : Nat) : Copy → List Row
  | .element path name attributes children =>
    ⟨.element path name, parent, next + 2 + attributes.length + sizes children⟩ ::
      ⟨.namespace, next, next + 2⟩ ::
      (attributeRows next (next + 2) attributes ++
        rowsOf next (next + 2 + attributes.length) children)
  | .text s => [⟨.text s, parent, next + 1⟩]
termination_by structural c => c

def rowsOf (parent next : Nat) : List Copy → List Row
  | [] => []
  | c :: cs => rows parent next c ++ rowsOf parent (next + size c) cs
termination_by structural cs => cs
end

def documentRows (c : Copy) : List Row := ⟨.root, 0, 1 + size c⟩ :: rows 0 1 c

-- `find?` leads from the path of an element of the page to the node that was made from it.
structure Outline where
  rows : Array Row
  find? : List Nat → Option Nat

namespace Outline

-- Every element is known by the path of the one that it was copied from.
def ofMirror (m : Mirror) : Outline :=
  let placed := documentRows m.copy
  ⟨(placed.map (Row.relabel fun place => (m.originalOf? place).getD [])).toArray,
    fun path => (m.placeOf? path).bind fun place =>
      placed.findIdx? (·.kind.path? == some place)⟩

def row (o : Outline) (n : Nat) : Row := o.rows.getD n default

def isAside (o : Outline) (n : Nat) : Bool :=
  match (o.row n).kind with
  | .attribute _ _ | .namespace => true
  | _ => false

-- The numbers from `a` up to `b`.
def span (a b : Nat) : List Nat := List.range' a (b - a)

def descendants (o : Outline) (n : Nat) : List Nat :=
  (span (n + 1) (o.row n).finish).filter (!o.isAside ·)

def children (o : Outline) (n : Nat) : List Nat :=
  (o.descendants n).filter fun m => (o.row m).parent == n

def attributes (o : Outline) (n : Nat) : List Nat :=
  (span (n + 1) (o.row n).finish).filter fun m =>
    (o.row m).parent == n && match (o.row m).kind with
      | .attribute _ _ => true
      | _ => false

def namespaces (o : Outline) (n : Nat) : List Nat :=
  (span (n + 1) (o.row n).finish).filter fun m =>
    (o.row m).parent == n && (o.row m).kind == .namespace

-- The nearest ancestor first.
def ancestorsFrom (o : Outline) : Nat → Nat → List Nat
  | 0, _ => []
  | fuel + 1, n => if n = 0 then [] else (o.row n).parent :: ancestorsFrom o fuel (o.row n).parent

def ancestors (o : Outline) (n : Nat) : List Nat := ancestorsFrom o o.rows.size n

def siblings (o : Outline) (n : Nat) : List Nat :=
  if n = 0 || o.isAside n then [] else o.children (o.row n).parent

def owner (o : Outline) (n : Nat) : Nat := if o.isAside n then (o.row n).parent else n

def following (o : Outline) (n : Nat) : List Nat :=
  (span (o.row (o.owner n)).finish o.rows.size).filter (!o.isAside ·)

def preceding (o : Outline) (n : Nat) : List Nat :=
  (span 0 (o.owner n)).filter fun m => !o.isAside m && (o.row m).finish ≤ o.owner n

-- All text at or below a node.
def textOf (o : Outline) (n : Nat) : List Char :=
  (span n (o.row n).finish).flatMap fun m =>
    match (o.row m).kind with
    | .text s => s.toList
    | _ => []

def vocabulary : String := "http://www.w3.org/XML/1998/namespace"

def string (o : Outline) (n : Nat) : String :=
  match (o.row n).kind with
  | .attribute _ value => value
  | .namespace => vocabulary
  | _ => String.ofList (o.textOf n)

def name (o : Outline) (n : Nat) : String :=
  match (o.row n).kind with
  | .element _ name | .attribute name _ => name
  | .namespace => "xml"
  | _ => ""

end Outline

end Spiderworks.XPath
