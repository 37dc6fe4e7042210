import Spiderworks.Css.Matching
import Spiderworks.Html.Reader
import Spiderworks.Page.Html
import Spiderworks.Rules.Basic
import Spiderworks.XPath.Evaluation

namespace Spiderworks.Extract

open Spiderworks.Page (Spot)

inductive SelectError where
  | css (expression : String)
  | xpath (expression : String)
  | noOutline
  deriving DecidableEq, Repr

def SelectError.message : SelectError → String
  | .css e => "invalid CSS selector '" ++ e ++ "'"
  | .xpath e => "invalid XPath '" ++ e ++ "'"
  | .noOutline => "XPath evaluation is not enabled for this page"

-- A match is an element, or a value that path expressions alone can give.
inductive Match where
  | element (s : Spot)
  | value (text : String)

def Match.spot? : Match → Option Spot
  | .element s => some s
  | .value _ => none

def Match.take (m : Match) (t : Taking) : String :=
  match m, t with
  | .element s, .text => String.ofList (Text.trim s.text)
  | .element s, .attribute name => (s.element.attribute? name).getD ""
  | .element s, .html =>
    String.ofList ((Page.Node.element s.here.element s.here.children).html false)
  | .value text, .text => Text.trimString text
  | .value _, .attribute _ => ""
  | .value text, .html => text

-- A page that is ready for selection. Path expressions need its outline.
structure Source where
  page : Page
  outline : Option XPath.Outline

def outlineOf (p : Page) : XPath.Outline := XPath.Outline.ofMirror (Page.Mirror.ofPage p)

def Source.ofPage (p : Page) (withOutline : Bool) : Source :=
  ⟨p, if withOutline then some (outlineOf p) else none⟩

inductive Scope where
  | page
  | element (s : Spot)

-- Inside an element its descendants are meant, or the element itself if none of them matches.
def selectCss (page : Page) (sel : Css.Selector) : Scope → List Match
  | .page => (page.spots.filter (sel.matches none)).map .element
  | .element item =>
    match item.below.filter (sel.matches (some item.element.created)) with
    | [] => if sel.matches none item then [.element item] else []
    | found => found.map .element

-- The node of the outline that was made from an element, if one was.
def nodeOf? (o : XPath.Outline) (s : Spot) : Option Nat := s.path?.bind o.find?

-- The element that a node of the outline was made from. The document stands for its root.
def spotOf? (page : Page) (o : XPath.Outline) (n : Nat) : Option Spot :=
  match (o.row n).kind with
  | .root => some page.rootSpot
  | .element path _ =>
    (page.rootSpot :: page.rootSpot.below).find? fun s => s.path? == some path
  | _ => none

def matchOf (page : Page) (o : XPath.Outline) (n : Nat) : Match :=
  match spotOf? page o n with
  | some s => .element s
  | none => .value (o.string n)

def focusOf (o : XPath.Outline) (scope : Scope) : XPath.Focus :=
  match scope with
  | .page => ⟨0, 1, 1⟩
  | .element s => ⟨(nodeOf? o s).getD 0, 1, 1⟩

def matchesOf (page : Page) (o : XPath.Outline) : XPath.Value → List Match
  | .nodes ns => ns.map (matchOf page o)
  | .boolean b => [.value (if b then "true" else "false")]
  | .number x => [.value (String.ofList (Decimal.plain x))]
  | .text s => [.value s]

def select (source : Source) (sel : Selector) (scope : Scope) : Except SelectError (List Match) :=
  match sel.dialect with
  | .css =>
    match Css.Selector.read? sel.expression with
    | some parsed => .ok (selectCss source.page parsed scope)
    | none => .error (.css sel.expression)
  | .xpath =>
    match source.outline with
    | none => .error .noOutline
    | some o =>
      match XPath.read? sel.expression with
      | none => .error (.xpath sel.expression)
      | some e =>
        match e.value o (focusOf o scope) with
        | .ok v => .ok (matchesOf source.page o v)
        | .error _ => .error (.xpath sel.expression)

end Spiderworks.Extract
