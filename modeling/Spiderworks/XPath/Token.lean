import Spiderworks.Decimal.Reader
import Spiderworks.XPath.Expr

namespace Spiderworks.XPath

-- Abbreviations are written out here, so `.`, `..`, `@` and `//` are no tokens of their own.
-- Whether `*`, `and`, `or`, `div` and `mod` are operators or names depends on the token before.
inductive Token where
  | slash
  | axis (a : Axis)
  | test (t : NodeTest)
  | function (name : String)
  | variable (name : String)
  | text (s : String)
  | number (x : Float)
  | operator (op : Operator)
  | open
  | close
  | openPredicate
  | closePredicate
  | comma

def isSpace (c : Char) : Bool := c == ' ' || c == '\t' || c == '\n' || c == '\r'

-- The characters that a name of an XML document starts with, the colon left out.
def isNameStart (c : Char) : Bool :=
  let n := c.toNat
  ('A' ≤ c && c ≤ 'Z') || c == '_' || ('a' ≤ c && c ≤ 'z') || (0xc0 ≤ n && n ≤ 0xd6) ||
    (0xd8 ≤ n && n ≤ 0xf6) || (0xf8 ≤ n && n ≤ 0x2ff) || (0x370 ≤ n && n ≤ 0x37d) ||
    (0x37f ≤ n && n ≤ 0x1fff) || (0x200c ≤ n && n ≤ 0x200d) || (0x2070 ≤ n && n ≤ 0x218f) ||
    (0x2c00 ≤ n && n ≤ 0x2fef) || (0x3001 ≤ n && n ≤ 0xd7ff) || (0xf900 ≤ n && n ≤ 0xfdcf) ||
    (0xfdf0 ≤ n && n ≤ 0xfffd) || (0x10000 ≤ n && n ≤ 0xeffff)

def isNamePart (c : Char) : Bool :=
  let n := c.toNat
  isNameStart c || c == '-' || c == '.' || Text.isDigit c || n == 0xb7 ||
    (0x300 ≤ n && n ≤ 0x36f) || (0x203f ≤ n && n ≤ 0x2040)

def name? (s : List Char) : Option (String × List Char) :=
  match s with
  | c :: _ =>
    if isNameStart c then
      some (String.ofList (s.takeWhile isNamePart), s.dropWhile isNamePart)
    else none
  | [] => none

-- A name with an optional vocabulary in front.
def spacedName? (s : List Char) : Option (Option String × String × List Char) :=
  match name? s with
  | none => none
  | some (first, rest) =>
    match rest with
    | ':' :: more =>
      match name? more with
      | some (second, rest) => some (some first, second, rest)
      | none => some (none, first, rest)
    | _ => some (none, first, rest)

def fullName (space : Option String) (name : String) : String :=
  match space with
  | some p => p ++ ":" ++ name
  | none => name

-- Longer names stand before their starts.
def axes : List (String × Axis) :=
  [("ancestor-or-self", .ancestorOrSelf), ("ancestor", .ancestor), ("attribute", .attribute),
    ("child", .child), ("descendant-or-self", .descendantOrSelf), ("descendant", .descendant),
    ("following-sibling", .followingSibling), ("following", .following),
    ("namespace", .namespace), ("parent", .parent), ("preceding-sibling", .precedingSibling),
    ("preceding", .preceding), ("self", .itself)]

def nodeTypes : List (String × NodeTest) :=
  [("comment()", .comment), ("text()", .text), ("processing-instruction()", .instruction),
    ("node()", .node)]

def namedOperators : List (String × Operator) :=
  [("and", .and), ("or", .or), ("mod", .remainder), ("div", .divide), ("*", .times)]

-- The first entry whose name the text starts with, and what follows the name.
def startsWithOne? {α : Type} (names : List (String × α)) (s : List Char) :
    Option (α × List Char) :=
  names.findSome? fun (word, a) =>
    if word.toList.isPrefixOf s then some (a, s.drop word.length) else none

def axis? (s : List Char) : Option (Axis × List Char) :=
  match startsWithOne? axes s with
  | some (a, rest) =>
    match rest.dropWhile isSpace with
    | ':' :: ':' :: rest => some (a, rest)
    | _ => none
  | none => none

def instruction? (s : List Char) : Option (List Char) :=
  let start := "processing-instruction(".toList
  if start.isPrefixOf s then
    match s.drop start.length with
    | q :: rest =>
      if q = '"' ∨ q = '\'' then
        match rest.dropWhile (· ≠ q) with
        | _ :: ')' :: rest => some rest
        | _ => none
      else none
    | [] => none
  else none

def number? (s : List Char) : Option (Float × List Char) :=
  let whole := s.takeWhile Text.isDigit
  let afterWhole := s.dropWhile Text.isDigit
  let (digits, rest) := match afterWhole with
    | '.' :: r => (whole ++ '.' :: r.takeWhile Text.isDigit, r.dropWhile Text.isDigit)
    | r => (whole, r)
  (Decimal.read? digits).map fun x => (x, rest)

-- Names of axes, nodes and functions, where no operator can stand.
def nameToken? (s : List Char) : Option (Token × List Char) :=
  match axis? s with
  | some (a, rest) => some (.axis a, rest)
  | none =>
    match startsWithOne? nodeTypes s, instruction? s with
    | some (t, rest), _ => some (.test t, rest)
    | none, some rest => some (.test .instruction, rest)
    | none, none =>
      match s, spacedName? s with
      | '*' :: rest, _ => some (.test (.any none), rest)
      | _, some (space, name, rest) =>
        match rest with
        | '(' :: _ => some (.function (fullName space name), rest)
        | ':' :: '*' :: rest => some (.test (.any (some name)), rest)
        | _ => some (.test (.name space name), rest)
      | _, none => none

def quoted? (q : Char) (s : List Char) : Option (Token × List Char) :=
  match s.dropWhile (· ≠ q) with
  | _ :: rest => some (.text (String.ofList (s.takeWhile (· ≠ q))), rest)
  | [] => none

-- The next tokens of a text without a blank in front: more than one for an abbreviation.
def lex? (operatorsAllowed : Bool) (s : List Char) : Option (List Token × List Char) :=
  let one (found : Option (Token × List Char)) : Option (List Token × List Char) :=
    found.map fun (t, rest) => ([t], rest)
  match s with
  | '<' :: '=' :: rest => some ([.operator .lessOrEqual], rest)
  | '>' :: '=' :: rest => some ([.operator .greaterOrEqual], rest)
  | '!' :: '=' :: rest => some ([.operator .notEqual], rest)
  | '/' :: '/' :: rest => some ([.slash, .axis .descendantOrSelf, .test .node, .slash], rest)
  | '.' :: '.' :: rest => some ([.axis .parent, .test .node], rest)
  | '/' :: rest => some ([.slash], rest)
  | '(' :: rest => some ([.open], rest)
  | ')' :: rest => some ([.close], rest)
  | '[' :: rest => some ([.openPredicate], rest)
  | ']' :: rest => some ([.closePredicate], rest)
  | '@' :: rest => some ([.axis .attribute], rest)
  | '+' :: rest => some ([.operator .plus], rest)
  | '-' :: rest => some ([.operator .minus], rest)
  | '|' :: rest => some ([.operator .union], rest)
  | '=' :: rest => some ([.operator .equal], rest)
  | '<' :: rest => some ([.operator .less], rest)
  | '>' :: rest => some ([.operator .greater], rest)
  | ',' :: rest => some ([.comma], rest)
  | '"' :: rest => one (quoted? '"' rest)
  | '\'' :: rest => one (quoted? '\'' rest)
  | '$' :: rest =>
    (spacedName? rest).map fun (space, name, rest) => ([.variable (fullName space name)], rest)
  | _ =>
    match number? s, s with
    | some (x, rest), _ => some ([.number x], rest)
    | none, '.' :: rest => some ([.axis .itself, .test .node], rest)
    | none, _ =>
      match if operatorsAllowed then startsWithOne? namedOperators s else none with
      | some (op, rest) => some ([.operator op], rest)
      | none => one (nameToken? s)

-- An operator cannot follow another operator, an opening, a comma or an axis.
def allowsOperator : Token → Bool
  | .slash | .axis _ | .operator _ | .open | .openPredicate | .comma => false
  | _ => true

-- Each round takes at least one character.
def tokensOf? : Nat → Bool → List Char → Option (List Token)
  | 0, _, s => if (s.dropWhile isSpace).isEmpty then some [] else none
  | fuel + 1, operatorsAllowed, s =>
    match s.dropWhile isSpace with
    | [] => some []
    | c :: rest =>
      match lex? operatorsAllowed (c :: rest) with
      | none => none
      | some (ts, rest) =>
        (tokensOf? fuel ((ts.getLast?).any allowsOperator) rest).map (ts ++ ·)

def tokens? (s : String) : Option (List Token) := tokensOf? s.length false s.toList

end Spiderworks.XPath
