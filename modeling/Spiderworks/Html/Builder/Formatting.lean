import Spiderworks.Html.Builder.Basic

namespace Spiderworks.Html.Builder

-- Elements that a stray end tag does not reach through.
def specialNames : List String :=
  ["address", "applet", "area", "article", "aside", "base", "basefont", "bgsound", "blockquote",
    "body", "br", "button", "caption", "center", "col", "colgroup", "dd", "details", "dir", "div",
    "dl", "dt", "embed", "fieldset", "figcaption", "figure", "footer", "form", "frame",
    "frameset", "h1", "h2", "h3", "h4", "h5", "h6", "head", "header", "hgroup", "hr", "html",
    "iframe", "img", "input", "isindex", "li", "link", "listing", "main", "marquee", "menu",
    "meta", "nav", "noembed", "noframes", "noscript", "object", "ol", "p", "param", "plaintext",
    "pre", "script", "section", "select", "source", "style", "summary", "table", "tbody", "td",
    "template", "textarea", "tfoot", "th", "thead", "title", "tr", "track", "ul", "wbr", "xmp"]

def isSpecial (o : Open) : Bool := isHtml specialNames o

-- Formatting elements such as `<b>` may be closed in an order other than the one they were opened
-- in. They are opened again where an element cut them off, and an end tag that comes too early
-- splits them.
def pushFormatting (f : Formatting) : Build Unit :=
  modify fun b => { b with formatting := f :: b.formatting }

def pushMarker : Build Unit := pushFormatting .marker

def isMarker : Formatting → Bool
  | .marker => true
  | .element _ _ => false

def isFormatting (id : Nat) : Formatting → Bool
  | .marker => false
  | .element other _ => other == id

def clearToMarker : Build Unit :=
  modify fun b => { b with formatting := (b.formatting.dropWhile (!isMarker ·)).tail }

def sinceMarker (b : Builder) : List Formatting := b.formatting.takeWhile (!isMarker ·)

def dropFormatting (id : Nat) : Build Unit :=
  modify fun b => { b with formatting := b.formatting.eraseP (isFormatting id) }

def replaceFormatting (id : Nat) (new : Formatting) : Build Unit :=
  modify fun b =>
    { b with formatting := b.formatting.map fun f => if isFormatting id f then new else f }

def isOpen (b : Builder) (id : Nat) : Bool := b.stack.any (·.id == id)

-- The entries to be opened again, oldest first.
def cutOff (b : Builder) : List (Nat × Tag) :=
  let shut := b.formatting.takeWhile fun f => match f with
    | .marker => false
    | .element id _ => !isOpen b id
  shut.reverse.filterMap fun f => match f with
    | .marker => none
    | .element id tag => some (id, tag)

def reopenFormatting : Build Unit := do
  for (id, tag) in cutOff (← get) do
    let o ← insertIn .html tag.name tag.attributes
    push o
    replaceFormatting id (.element o.id tag)

def sameTag (a b : Tag) : Bool :=
  a.name == b.name && a.attributes.length == b.attributes.length &&
    a.attributes.all b.attributes.contains

-- No more than three entries that look the same are kept: a fourth one takes the place of the
-- oldest.
def dropFourth (tag : Tag) : Build Unit := do
  let same := (sinceMarker (← get)).filterMap fun f => match f with
    | .marker => none
    | .element id other => if sameTag tag other then some id else none
  if 3 ≤ same.length then
    match same.getLast? with
    | some id => dropFormatting id
    | none => pure ()

def insertFormatting (tag : Tag) : Build Unit := do
  dropFourth tag
  let o ← insertIn .html tag.name tag.attributes
  push o
  pushFormatting (.element o.id tag)

-- An end tag closes the innermost open element of its name, unless a special element is met
-- before.
def closeAny (name : String) : Build Unit := do
  let stack := (← get).stack
  match stack.find? fun o => isHtml [name] o || isSpecial o with
  | some o =>
    if isHtml [name] o then
      closeImpliedExcept name
      modify fun b => { b with stack := (b.stack.dropWhile (·.id != o.id)).tail }
  | none => pure ()

-- ### Splitting a formatting element

-- Replaces an open element by another one.
def replaceOpen (id : Nat) (new : Open) : Build Unit :=
  modify fun b => { b with stack := b.stack.map fun o => if o.id == id then new else o }

-- Where the split element goes into the list of formatting elements.
inductive Bookmark where
  | replace
  | after (id : Nat)

-- The elements between the split element and the block inside it, innermost first, are copied
-- around the block. Those past the third, and those that do no formatting, are closed instead.
def copyBetween (block : Nat) : List Open → Nat → Nat → Bookmark → Build (Nat × Bookmark)
  | [], _, last, bookmark => return (last, bookmark)
  | o :: outer, count, last, bookmark => do
    match (← get).formatting.find? (isFormatting o.id) with
    | some (.element _ tag) =>
      if 3 < count then
        dropFormatting o.id
        dropOpen o.id
        copyBetween block outer (count + 1) last bookmark
      else
        let new ← create .html tag.name tag.attributes
        replaceOpen o.id new
        replaceFormatting o.id (.element new.id tag)
        modify fun b => { b with arena := b.arena.append new.id last }
        let bookmark := if last = block then .after new.id else bookmark
        copyBetween block outer (count + 1) new.id bookmark
    | _ =>
      dropOpen o.id
      copyBetween block outer (count + 1) last bookmark

def insertAfterEntry (id : Nat) (new : Formatting) : List Formatting → List Formatting
  | [] => []
  | f :: rest =>
    if isFormatting id f then new :: f :: rest else f :: insertAfterEntry id new rest

def insertAboveOpen (id : Nat) (new : Open) : List Open → List Open
  | [] => []
  | o :: rest => if o.id == id then new :: o :: rest else o :: insertAboveOpen id new rest

def splitAt (element : Open) (tag : Tag) (block ancestor : Open) (between : List Open) :
    Build Unit := do
  let (last, bookmark) ← copyBetween block.id between 1 block.id .replace
  modify fun b =>
    let arena := b.arena.detach last
    { b with arena := putCell arena (placeIn { b with arena := arena } ancestor) last }
  let new ← create .html tag.name tag.attributes
  modify fun b =>
    let arena := b.arena.moveChildren block.id new.id
    { b with arena := arena.append block.id new.id }
  let entry := Formatting.element new.id tag
  match bookmark with
  | .replace => replaceFormatting element.id entry
  | .after id =>
    modify fun b => { b with
      formatting := (insertAfterEntry id entry b.formatting).eraseP (isFormatting element.id) }
  dropOpen element.id
  modify fun b => { b with stack := insertAboveOpen block.id new b.stack }

-- The innermost formatting element of a name, up to a marker.
def formattingNamed? (b : Builder) (name : String) : Option (Nat × Tag) :=
  (sinceMarker b).findSome? fun f => match f with
    | .marker => none
    | .element id tag => if tag.name == name then some (id, tag) else none

-- One round of splitting. The answer says whether another round has to follow.
def splitOnce (name : String) : Build Bool := do
  let b ← get
  match formattingNamed? b name with
  | none =>
    closeAny name
    return false
  | some (id, tag) =>
    match b.stack.find? (·.id == id) with
    | none =>
      dropFormatting id
      return false
    | some element =>
      if !reaches endsScope (·.id == id) b.stack then return false
      let inner := b.stack.takeWhile (·.id != id)
      let outer := (b.stack.dropWhile (·.id != id)).tail
      match inner.reverse.find? isSpecial, outer with
      | some block, ancestor :: _ =>
        let between := (inner.dropWhile (·.id != block.id)).tail
        splitAt element tag block ancestor between
        return true
      | _, _ =>
        setStack outer
        dropFormatting id
        return false

def splitRounds (name : String) : Nat → Build Unit
  | 0 => return
  | n + 1 => do if ← splitOnce name then splitRounds name n

-- The end tag of a formatting element.
def closeFormatting (name : String) : Build Unit := do
  let b ← get
  match b.stack.head? with
  | some o =>
    if isHtml [name] o && !b.formatting.any (isFormatting o.id) then pop else splitRounds name 8
  | none => splitRounds name 8

-- A link inside a link closes the outer one.
def closeOuterLink : Build Unit := do
  match formattingNamed? (← get) "a" with
  | none => return
  | some (id, _) =>
    closeFormatting "a"
    dropFormatting id
    dropOpen id

end Spiderworks.Html.Builder
