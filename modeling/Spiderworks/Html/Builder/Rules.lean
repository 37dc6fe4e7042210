import Spiderworks.Html.Builder.Table

namespace Spiderworks.Html.Builder

-- ### Start

def initial (token : Token) : Build Outcome := do
  match token with
  | .char c =>
    if isSpace c then ignored
    else do
      modify fun b => { b with oldLayout := true }
      return .again .beforeHtml token
  | .comment s => used (addCommentTo 0 s)
  | _ =>
    modify fun b => { b with oldLayout := true }
    return .again .beforeHtml token

def createRoot (tag : Tag) : Build Unit := do
  let o ← create .html "html" tag.attributes
  push o
  modify fun b => { b with arena := b.arena.append 0 o.id, mode := .beforeHead }

def beforeHtml (token : Token) : Build Outcome :=
  let other : Build Outcome := do
    createRoot ⟨"html", [], false⟩
    return .again .beforeHead token
  match token with
  | .comment s => used (addCommentTo 0 s)
  | .char c => if isSpace c then ignored else other
  | .open tag => if tag.name = "html" then used (createRoot tag) else other
  | .close tag => if ["head", "body", "html", "br"].contains tag.name then other else ignored
  | _ => other

def openHead (tag : Tag) : Build Unit := do
  insert tag
  let head ← current?
  modify fun b => { b with head := head, mode := .inHead }

def beforeHead (token : Token) : Build Outcome :=
  let other : Build Outcome := do
    openHead ⟨"head", [], false⟩
    return .again .inHead token
  match token with
  | .comment s => used (addComment s)
  | .char c => if isSpace c then ignored else other
  | .open tag =>
    if tag.name = "html" then inBody token
    else if tag.name = "head" then used (openHead tag)
    else other
  | .close tag => if ["head", "body", "html", "br"].contains tag.name then other else ignored
  | _ => other

-- Metadata after the head goes into it all the same.
def inHeadAgain (token : Token) : Build Outcome := do
  match (← get).head with
  | none => ignored
  | some head =>
    push head
    let outcome ← inHead token
    dropOpen head.id
    return outcome

def afterHead (token : Token) : Build Outcome :=
  let other : Build Outcome := do
    insertPlain "body"
    return .again .inBody token
  match token with
  | .char c => if isSpace c then used (addText c) else other
  | .comment s => used (addComment s)
  | .open tag =>
    if headNames.contains tag.name then inHeadAgain token
    else match tag.name with
      | "html" => inBody token
      | "body" => used do
        insert tag
        disallowFrameset
        setMode .inBody
      | "frameset" => used do
        insert tag
        setMode .inFrameset
      | "head" => ignored
      | _ => other
  | .close tag =>
    match tag.name with
    | "template" => inHead token
    | "body" | "html" | "br" => other
    | _ => ignored
  | _ => other

-- ### Text up to an end tag

def inText (token : Token) : Build Outcome := do
  match token with
  | .char c => used (addText c)
  | .close _ =>
    pop
    modify fun b => { b with mode := b.textReturn, content := .data }
    return .done
  | .eof =>
    pop
    return .again (← get).textReturn token
  | _ => ignored

-- ### End

def addCommentToRoot (s : String) : Build Unit := do
  match (← get).stack.getLast? with
  | some root => addCommentTo root.id s
  | none => return

def afterBody (token : Token) : Build Outcome :=
  match token with
  | .char c => if isSpace c then inBody token else return .again .inBody token
  | .comment s => used (addCommentToRoot s)
  | .open tag => if tag.name = "html" then inBody token else return .again .inBody token
  | .close tag =>
    if tag.name = "html" then used (setMode .afterAfterBody) else return .again .inBody token
  | .eof => ignored
  | _ => return .again .inBody token

def afterAfterBody (token : Token) : Build Outcome :=
  match token with
  | .char c => if isSpace c then inBody token else return .again .inBody token
  | .comment s => used (addCommentTo 0 s)
  | .open tag => if tag.name = "html" then inBody token else return .again .inBody token
  | .eof => ignored
  | _ => return .again .inBody token

def closeFrameset : Build Unit := do
  if 1 < (← get).stack.length then
    pop
    if !(← currentIs ["frameset"]) then setMode .afterFrameset

def inFrameset (token : Token) : Build Outcome :=
  match token with
  | .char c => if isSpace c then used (addText c) else ignored
  | .comment s => used (addComment s)
  | .open tag =>
    match tag.name with
    | "html" => inBody token
    | "frameset" => used (insert tag)
    | "frame" => used (insertClosed tag)
    | "noframes" => inHead token
    | _ => ignored
  | .close tag => if tag.name = "frameset" then used closeFrameset else ignored
  | _ => ignored

def afterFrameset (token : Token) : Build Outcome :=
  match token with
  | .char c => if isSpace c then used (addText c) else ignored
  | .comment s => used (addComment s)
  | .open tag =>
    match tag.name with
    | "html" => inBody token
    | "noframes" => inHead token
    | _ => ignored
  | .close tag => if tag.name = "html" then used (setMode .afterAfterFrameset) else ignored
  | _ => ignored

def afterAfterFrameset (token : Token) : Build Outcome :=
  match token with
  | .char c => if isSpace c then inBody token else ignored
  | .comment s => used (addCommentTo 0 s)
  | .open tag =>
    match tag.name with
    | "html" => inBody token
    | "noframes" => inHead token
    | _ => ignored
  | _ => ignored

-- ### Choice of the rules

def follow (mode : Mode) (token : Token) : Build Outcome :=
  match mode with
  | .initial => initial token
  | .beforeHtml => beforeHtml token
  | .beforeHead => beforeHead token
  | .inHead => inHead token
  | .afterHead => afterHead token
  | .inBody => inBody token
  | .text => inText token
  | .inTable => inTable token
  | .inTableText => inTableText token
  | .inCaption => inCaption token
  | .inColumnGroup => inColumnGroup token
  | .inTableBody => inTableBody token
  | .inRow => inRow token
  | .inCell => inCell token
  | .inSelect => inSelect token
  | .inSelectInTable => inSelectInTable token
  | .inTemplate => inTemplate token
  | .afterBody => afterBody token
  | .inFrameset => inFrameset token
  | .afterFrameset => afterFrameset token
  | .afterAfterBody => afterAfterBody token
  | .afterAfterFrameset => afterAfterFrameset token

-- ### Foreign elements

-- Start tags that end a foreign element.
def breakoutNames : List String :=
  ["b", "big", "blockquote", "body", "br", "center", "code", "dd", "div", "dl", "dt", "em",
    "embed", "h1", "h2", "h3", "h4", "h5", "h6", "head", "hr", "i", "img", "li", "listing",
    "menu", "meta", "nobr", "ol", "p", "pre", "ruby", "s", "small", "span", "strong", "strike",
    "sub", "sup", "table", "tt", "u", "ul", "var"]

def breaksOut (tag : Tag) : Bool :=
  breakoutNames.contains tag.name ||
    (tag.name == "font" &&
      tag.attributes.any fun a => ["color", "face", "size"].contains a.name)

-- Whether the rules for foreign elements apply to a token.
def isForeign (b : Builder) (token : Token) : Bool :=
  match b.stack.head?, token with
  | none, _ | _, .eof => false
  | some o, token =>
    if o.space == .html then false
    else match token with
      | .char _ | .null => !(isMathText o || isSvgHtml o)
      | .open tag =>
        !((isMathText o && tag.name != "mglyph" && tag.name != "malignmark") || isSvgHtml o ||
          (o.space == .mathml && o.name == "annotation-xml" && tag.name == "svg"))
      | _ => true

def foreignTag (space : Page.Space) (tag : Tag) : Tag :=
  match space with
  | .svg => { tag with name := properName svgElementNames tag.name }
  | _ => tag

-- An end tag closes the innermost foreign element of its name. None where an HTML element is
-- met first, whose rules then apply.
def closeForeign (name : String) : List Open → Bool → Option (List Open)
  | [], _ | [_], _ => some []
  | o :: rest, first =>
    if !first && o.space == .html then none
    else if Text.asciiLowerString o.name == name then some (o :: rest)
    else closeForeign name rest false

def inForeign (token : Token) : Build Outcome := do
  match token with
  | .null => used (addText replacementChar)
  | .char c => used do
    if !isSpace c then disallowFrameset
    addText c
  | .comment s => used (addComment s)
  | .open tag =>
    if breaksOut tag then
      pop
      let takesHtml (o : Open) : Bool := o.space == .html || isMathText o || isSvgHtml o
      modify fun b => { b with stack := b.stack.dropWhile (!takesHtml ·) }
      return .again (← get).mode token
    else
      let space := ((← current?).map (·.space)).getD .html
      used (openForeign space (foreignTag space tag))
  | .close tag =>
    let b ← get
    match closeForeign tag.name b.stack true with
    | none => follow b.mode token
    | some [] => ignored
    | some closed => used (setStack closed.tail)
  | _ => ignored
where
  replacementChar : Char := '\ufffd'

-- Gives a token to one mode after another until it is used up.
def settle : Nat → Token → Build Unit
  | 0, _ => return
  | fuel + 1, token => do
    let b ← get
    match ← if isForeign b token then inForeign token else follow b.mode token with
    | .done => return
    | .again mode token =>
      setMode mode
      settle fuel token

-- No token goes through more modes: each of them either closes an element or comes later.
def patience (b : Builder) : Nat := 64 + 8 * (b.stack.length + b.templateModes.length)

def declare (d : Doctype) : Build Unit := do
  let b ← get
  if b.mode = .initial then set { b with mode := .beforeHtml, oldLayout := d.quirky }

-- A line feed right after some start tags is no part of the page.
def step (token : Token) : Build Unit := do
  let b ← get
  set { b with skipLineFeed := false }
  match token with
  | .doctype d => declare d
  | .char c => if !(b.skipLineFeed ∧ c = '\n') then settle (patience b) token
  | _ => settle (patience b) token

end Spiderworks.Html.Builder
