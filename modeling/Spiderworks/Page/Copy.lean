import Spiderworks.Page.Spot

namespace Spiderworks.Page

-- A tree of elements and texts. Every element has a label that tells it from all others.
inductive Copy where
  | element (label : List Nat) (name : String) (attributes : List (String × String))
      (children : List Copy)
  | text (s : String)

-- An attribute of a foreign element may share its name with another one, and takes its place then.
-- As in `openTag`, the order of the list is assumed to be that in which the attributes are shown.
def Element.pairs (e : Element) : List (String × String) :=
  e.attributes.foldl (fun pairs a => pairs.filter (·.1 != a.name) ++ [(a.name, a.value)]) []

namespace Copy

-- The children of the element at a place: the numbers of the children on the way to it.
def childrenAt? : List Nat → Copy → Option (List Copy)
  | _, .text _ => none
  | [], .element _ _ _ children => some children
  | k :: place, .element _ _ _ children => children[k]?.bind (childrenAt? place)

def changeAt (f : List Copy → List Copy) : List Nat → Copy → Copy
  | _, .text s => .text s
  | [], .element label name attributes children => .element label name attributes (f children)
  | k :: place, .element label name attributes children =>
    .element label name attributes (children.modify k (changeAt f place))

def append (c : Copy) (place : List Nat) (child : Copy) : Copy :=
  c.changeAt (· ++ [child]) place

def count (place : List Nat) (c : Copy) : Nat := (c.childrenAt? place).elim 0 (·.length)

end Copy

-- ### Copying a page

-- An element of the page whose children are still to be copied, and the place of its copy.
structure Pending where
  path : List Nat
  place : List Nat
  children : List Node

-- A copy in the making. Its elements are labelled by their places, and `pairs` has the paths of all
-- elements that were copied with the places of their copies.
structure Draft where
  copy : Copy
  pairs : List (List Nat × List Nat)

namespace Draft

-- What is neither an element nor a text is left out with all that is below it.
def copyChild (j : Pending) (index : Nat) (d : Draft) (stack : List Pending) :
    Node → Draft × List Pending
  | .element e children =>
    let path := j.path ++ [index]
    let place := j.place ++ [d.copy.count j.place]
    (⟨d.copy.append j.place (.element place e.name e.pairs []), d.pairs ++ [(path, place)]⟩,
      ⟨path, place, children⟩ :: stack)
  | .text s => ({ d with copy := d.copy.append j.place (.text s) }, stack)
  | .contents _ | .comment _ => (d, stack)

-- `index` is the number of the first of the children.
def copyChildren (j : Pending) (index : Nat) (d : Draft) (stack : List Pending) :
    List Node → Draft × List Pending
  | [] => (d, stack)
  | n :: ns =>
    let next := d.copyChild j index stack n
    next.1.copyChildren j (index + 1) next.2 ns

-- How many elements there are.
mutual
def weight : Node → Nat
  | .element _ children => 1 + weights children
  | .contents _ | .text _ | .comment _ => 0
termination_by structural n => n

def weights : List Node → Nat
  | [] => 0
  | n :: ns => weight n + weights ns
termination_by structural ns => ns
end

-- How many elements are still to be gone through.
def load : List Pending → Nat
  | [] => 0
  | j :: stack => 1 + weights j.children + load stack

theorem load_copyChild (j : Pending) (index : Nat) (d : Draft) (stack : List Pending) (n : Node) :
    load (d.copyChild j index stack n).2 = weight n + load stack := by
  cases n with
  | element e children => simp [copyChild, load, weight]
  | contents | text | comment => simp [copyChild, weight]

theorem load_copyChildren (j : Pending) (index : Nat) (d : Draft) (stack : List Pending)
    (ns : List Node) : load (d.copyChildren j index stack ns).2 = weights ns + load stack := by
  induction ns generalizing index d stack with
  | nil => simp [copyChildren, weights]
  | cons n rest ih =>
      rw [copyChildren, ih, load_copyChild, weights]
      omega

-- The element that was met last is gone through first.
def run (d : Draft) : List Pending → Draft
  | [] => d
  | j :: stack =>
    let next := d.copyChildren j 0 stack j.children
    next.1.run next.2
termination_by stack => load stack
decreasing_by
  rw [load_copyChildren, load]
  omega

end Draft

-- A copy of the page, and both ways between an element and its copy.
structure Mirror where
  copy : Copy
  forward : List (List Nat × List Nat)
  reverse : List (List Nat × List Nat)

namespace Mirror

def ofPage (p : Page) : Mirror :=
  let start : Draft := ⟨.element [] p.root.name p.root.pairs [], [([], [])]⟩
  let d := start.run [⟨[], [], p.children⟩]
  ⟨d.copy, d.pairs, d.pairs.map Prod.swap⟩

def placeOf? (m : Mirror) (path : List Nat) : Option (List Nat) := m.forward.lookup path

def originalOf? (m : Mirror) (place : List Nat) : Option (List Nat) := m.reverse.lookup place

end Mirror

end Spiderworks.Page
