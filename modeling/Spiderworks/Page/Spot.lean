import Spiderworks.Page.Tree

namespace Spiderworks

namespace Page

-- An element among its siblings; those before it have the nearest one first.
structure Level where
  element : Element
  children : List Node
  left : List Node
  right : List Node

-- What the outermost element of a branch stands in: the document itself, nothing at all, or the
-- contents of a template.
inductive Base where
  | page
  | loose
  | contents
  deriving DecidableEq, Repr

-- `above` has the parent first.
structure Spot where
  here : Level
  above : List Level
  base : Base

namespace Spot

def element (s : Spot) : Element := s.here.element

def parent? (s : Spot) : Option Spot :=
  match s.above with
  | [] => none
  | l :: rest => some ⟨l, rest, s.base⟩

-- The ancestors, nearest first.
def ancestorsFrom (base : Base) : List Level → List Spot
  | [] => []
  | l :: rest => ⟨l, rest, base⟩ :: ancestorsFrom base rest

def ancestors (s : Spot) : List Spot := ancestorsFrom s.base s.above

-- The elements among the siblings before, nearest first. `right` holds what stands between them
-- and the spot, and all that follows.
def earlierFrom (above : List Level) (base : Base) (right : List Node) : List Node → List Spot
  | [] => []
  | n :: left =>
    match n with
    | .element e children =>
      ⟨⟨e, children, left, right⟩, above, base⟩ :: earlierFrom above base (n :: right) left
    | _ => earlierFrom above base (n :: right) left

def earlierSiblings (s : Spot) : List Spot :=
  earlierFrom s.above s.base (.element s.here.element s.here.children :: s.here.right) s.here.left

def isRoot (s : Spot) : Bool := s.above.isEmpty && s.base == .page

-- The elements at and below a list of siblings, in document order. `left` holds the siblings
-- before them.
mutual
def ofNode (above : List Level) (base : Base) (left right : List Node) : Node → List Spot
  | .element e children =>
    let level : Level := ⟨e, children, left, right⟩
    ⟨level, above, base⟩ :: ofNodes (level :: above) base [] children
  | .contents children => ofNodes [] .contents [] children
  | .text _ | .comment _ => []
termination_by structural n => n

def ofNodes (above : List Level) (base : Base) (left : List Node) : List Node → List Spot
  | [] => []
  | n :: right => ofNode above base left right n ++ ofNodes above base (n :: left) right
termination_by structural ns => ns
end

-- The elements below, in document order.
def below (s : Spot) : List Spot := ofNodes (s.here :: s.above) s.base [] s.here.children

-- The numbers of children that lead from the root of the page to the spot, if any do.
def path? (s : Spot) : Option (List Nat) :=
  match s.base with
  | .page => some (((s.here :: s.above).map (·.left.length)).reverse.drop 1)
  | _ => none

def text (s : Spot) : List Char := textCharsOf s.here.children

end Spot

def elementNodes (ns : List Node) : List Element :=
  ns.filterMap fun n => match n with
    | .element e _ => some e
    | _ => none

end Page

namespace Page

def rootSpot (p : Page) : Page.Spot := ⟨⟨p.root, p.children, [], []⟩, [], .page⟩

-- The elements that hang in a subtree taken out of the page, its head left out.
def looseSpots : List Page.Node → List Page.Spot
  | [] => []
  | .element e children :: rest =>
    Page.Spot.ofNodes [⟨e, children, [], []⟩] .loose [] children ++ looseSpots rest
  | _ :: rest => looseSpots rest

-- All elements that stand in another node, in the order in which they came into being.
def spots (p : Page) : List Page.Spot :=
  (p.rootSpot :: p.rootSpot.below ++ looseSpots p.loose).mergeSort
    fun a b => a.element.created ≤ b.element.created

end Page

end Spiderworks
