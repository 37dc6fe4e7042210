import Spiderworks.Html.Builder.Formatting
import Spiderworks.Text.Blank

namespace Spiderworks.Html.Builder

open Spiderworks.Page (Attribute AttributeSpace)

def ignored : Build Outcome := return .done

def used (action : Build Unit) : Build Outcome := do
  action
  return .done

-- ### Head

def metadataNames : List String := ["base", "basefont", "bgsound", "link", "meta"]

def headNames : List String :=
  metadataNames ++ ["noframes", "script", "style", "template", "title"]

def closeTemplate : Build Unit := do
  if ← hasTemplate then
    closeImplied thoroughImpliedEnds
    popThroughName "template"
    clearToMarker
    modify fun b => { b with templateModes := b.templateModes.tail }
    setMode (← resetMode)

def openTemplate (tag : Tag) : Build Unit := do
  insert tag
  pushMarker
  disallowFrameset
  modify fun b => { b with mode := .inTemplate, templateModes := .inTemplate :: b.templateModes }

-- Start tags with rules of their own in the head, wherever they stand.
def openInHead (tag : Tag) : Build Unit :=
  match tag.name with
  | "title" => insertRaw tag (.escapable "title")
  | "noframes" | "style" | "noscript" => insertRaw tag (.raw tag.name)
  | "script" => insertRaw tag .script
  | "template" => openTemplate tag
  | _ => insertClosed tag

def mergeRootAttributes (tag : Tag) : Build Unit := do
  if !(← hasTemplate) then
    modify fun b => match b.stack.getLast? with
      | some root => { b with arena := b.arena.addAttributes root.id tag.attributes }
      | none => b

def leaveHead (token : Token) : Build Outcome := do
  pop
  return .again .afterHead token

def inHead (token : Token) : Build Outcome :=
  match token with
  | .char c => if isSpace c then used (addText c) else leaveHead token
  | .comment s => used (addComment s)
  | .open tag =>
    if tag.name = "html" then used (mergeRootAttributes tag)
    else if headNames.contains tag.name ∨ tag.name = "noscript" then used (openInHead tag)
    else if tag.name = "head" then ignored
    else leaveHead token
  | .close tag =>
    match tag.name with
    | "head" => used (do pop; setMode .afterHead)
    | "template" => used closeTemplate
    | "body" | "html" | "br" => leaveHead token
    | _ => ignored
  | _ => leaveHead token

-- ### Templates

def retemplate (mode : Mode) (token : Token) : Build Outcome := do
  modify fun b => { b with templateModes := mode :: b.templateModes.tail }
  return .again mode token

-- The end of the page inside a template closes the template.
def endInTemplate : Build Outcome := do
  if ← hasTemplate then
    popThroughName "template"
    clearToMarker
    modify fun b => { b with templateModes := b.templateModes.tail }
    setMode (← resetMode)
    return .again (← resetMode) .eof
  else return .done

def endOfPage : Build Outcome := do
  if (← get).templateModes.isEmpty then return .done else endInTemplate

-- ### Body

def blockNames : List String :=
  ["address", "article", "aside", "blockquote", "center", "details", "dialog", "dir", "div", "dl",
    "fieldset", "figcaption", "figure", "footer", "header", "hgroup", "main", "menu", "nav", "ol",
    "p", "section", "summary", "ul"]

def closableBlockNames : List String := blockNames.erase "p" ++ ["button", "listing", "pre"]

def headings : List String := ["h1", "h2", "h3", "h4", "h5", "h6"]

def formattingNames : List String :=
  ["a", "b", "big", "code", "em", "font", "i", "nobr", "s", "small", "strike", "strong", "tt", "u"]

-- The body, where it is the second open element.
def bodyOf? (b : Builder) : Option Open :=
  match b.stack.reverse with
  | _ :: o :: _ => if isHtml ["body"] o then some o else none
  | _ => none

def mergeBodyAttributes (tag : Tag) : Build Unit := do
  let b ← get
  match bodyOf? b with
  | some body =>
    if !(← hasTemplate) then
      disallowFrameset
      modify fun b => { b with arena := b.arena.addAttributes body.id tag.attributes }
  | none => return

def openFrameset (tag : Tag) : Build Unit := do
  let b ← get
  if b.framesetAllowed then
    match bodyOf? b with
    | some body =>
      modify fun b =>
        { b with arena := b.arena.detach body.id, stack := b.stack.drop (b.stack.length - 1) }
      insert tag
      setMode .inFrameset
    | none => return

def openForm (tag : Tag) : Build Unit := do
  let inTemplate ← hasTemplate
  if (← get).form.isNone || inTemplate then
    closeParagraphInScope
    let o ← insertIn .html tag.name tag.attributes
    push o
    if !inTemplate then modify fun b => { b with form := some o.id }

-- A list item closes the one before it.
def itemToClose (names : List String) : List Open → Option String
  | [] => none
  | o :: rest =>
    if isHtml names o then some o.name
    else if isSpecial o && !isHtml ["address", "div", "p"] o then none
    else itemToClose names rest

def openItem (tag : Tag) : Build Unit := do
  disallowFrameset
  let names := if tag.name = "li" then ["li"] else ["dd", "dt"]
  match itemToClose names (← get).stack with
  | some name =>
    closeImpliedExcept name
    popThroughName name
  | none => pure ()
  closeParagraphInScope
  insert tag

def isHidden (tag : Tag) : Bool :=
  (tag.attribute? "type").any fun v => Text.asciiLowerString v == "hidden"

def openVoid (tag : Tag) : Build Unit := do
  reopenFormatting
  insertClosed tag
  if !(tag.name = "input" ∧ isHidden tag) then disallowFrameset

def openSelect (tag : Tag) : Build Unit := do
  reopenFormatting
  insert tag
  disallowFrameset
  let inTable := [Mode.inTable, .inCaption, .inTableBody, .inRow, .inCell].contains (← get).mode
  setMode (if inTable then .inSelectInTable else .inSelect)

-- Attributes of foreign elements whose names are not all lower case.
def svgAttributeNames : List String :=
  ["attributeName", "attributeType", "baseFrequency", "baseProfile", "calcMode", "clipPathUnits",
    "diffuseConstant", "edgeMode", "filterUnits", "glyphRef", "gradientTransform",
    "gradientUnits", "kernelMatrix", "kernelUnitLength", "keyPoints", "keySplines", "keyTimes",
    "lengthAdjust", "limitingConeAngle", "markerHeight", "markerUnits", "markerWidth",
    "maskContentUnits", "maskUnits", "numOctaves", "pathLength", "patternContentUnits",
    "patternTransform", "patternUnits", "pointsAtX", "pointsAtY", "pointsAtZ", "preserveAlpha",
    "preserveAspectRatio", "primitiveUnits", "refX", "refY", "repeatCount", "repeatDur",
    "requiredExtensions", "requiredFeatures", "specularConstant", "specularExponent",
    "spreadMethod", "startOffset", "stdDeviation", "stitchTiles", "surfaceScale",
    "systemLanguage", "tableValues", "targetX", "targetY", "textLength", "viewBox", "viewTarget",
    "xChannelSelector", "yChannelSelector", "zoomAndPan"]

def svgElementNames : List String :=
  ["altGlyph", "altGlyphDef", "altGlyphItem", "animateColor", "animateMotion",
    "animateTransform", "clipPath", "feBlend", "feColorMatrix", "feComponentTransfer",
    "feComposite", "feConvolveMatrix", "feDiffuseLighting", "feDisplacementMap",
    "feDistantLight", "feDropShadow", "feFlood", "feFuncA", "feFuncB", "feFuncG", "feFuncR",
    "feGaussianBlur", "feImage", "feMerge", "feMergeNode", "feMorphology", "feOffset",
    "fePointLight", "feSpecularLighting", "feSpotLight", "feTile", "feTurbulence",
    "foreignObject", "glyphRef", "linearGradient", "radialGradient", "textPath"]

def properName (names : List String) (name : String) : String :=
  (names.find? fun proper => Text.asciiLowerString proper == name).getD name

-- Attribute names that belong to a vocabulary of their own inside foreign elements.
def spacedAttribute (a : Attribute) : Attribute :=
  match a.name with
  | "xlink:actuate" => { a with space := .xlink, name := "actuate" }
  | "xlink:arcrole" => { a with space := .xlink, name := "arcrole" }
  | "xlink:href" => { a with space := .xlink, name := "href" }
  | "xlink:role" => { a with space := .xlink, name := "role" }
  | "xlink:show" => { a with space := .xlink, name := "show" }
  | "xlink:title" => { a with space := .xlink, name := "title" }
  | "xlink:type" => { a with space := .xlink, name := "type" }
  | "xml:base" => { a with space := .xml, name := "base" }
  | "xml:lang" => { a with space := .xml, name := "lang" }
  | "xml:space" => { a with space := .xml, name := "space" }
  | "xmlns" => { a with space := .xmlns }
  | "xmlns:xlink" => { a with space := .xmlns, name := "xlink" }
  | _ => a

def foreignAttribute (space : Page.Space) (a : Attribute) : Attribute :=
  let a := match space with
    | .svg => { a with name := properName svgAttributeNames a.name }
    | .mathml => if a.name = "definitionurl" then { a with name := "definitionURL" } else a
    | .html => a
  spacedAttribute a

def openForeign (space : Page.Space) (tag : Tag) : Build Unit := do
  let o ← insertIn space tag.name (tag.attributes.map (foreignAttribute space))
  if !tag.selfClosing then push o

def closeBefore (tag : Tag) : Build Unit := do
  closeParagraphInScope
  insert tag

def openInBody (tag : Tag) : Build Unit := do
  let name := tag.name
  if name = "html" then mergeRootAttributes tag
  else if headNames.contains name then openInHead tag
  else if name = "body" then mergeBodyAttributes tag
  else if name = "frameset" then openFrameset tag
  else if blockNames.contains name then closeBefore tag
  else if headings.contains name then do
    closeParagraphInScope
    if ← currentIs headings then pop
    insert tag
  else if name = "pre" ∨ name = "listing" then do
    closeBefore tag
    modify fun b => { b with skipLineFeed := true, framesetAllowed := false }
  else if name = "form" then openForm tag
  else if ["li", "dd", "dt"].contains name then openItem tag
  else if name = "plaintext" then do
    closeBefore tag
    modify fun b => { b with content := .plain }
  else if name = "button" then do
    if ← inScope endsScope ["button"] then
      closeImplied impliedEnds
      popThroughName "button"
    reopenFormatting
    insert tag
    disallowFrameset
  else if name = "a" then do
    closeOuterLink
    reopenFormatting
    insertFormatting tag
  else if name = "nobr" then do
    reopenFormatting
    if ← inScope endsScope ["nobr"] then
      closeFormatting "nobr"
      reopenFormatting
    insertFormatting tag
  else if formattingNames.contains name then do
    reopenFormatting
    insertFormatting tag
  else if ["applet", "marquee", "object"].contains name then do
    reopenFormatting
    insert tag
    pushMarker
    disallowFrameset
  else if name = "table" then do
    if !(← get).oldLayout then closeParagraphInScope
    insert tag
    disallowFrameset
    setMode .inTable
  else if ["area", "br", "embed", "img", "keygen", "wbr", "input"].contains name then openVoid tag
  else if ["param", "source", "track"].contains name then insertClosed tag
  else if name = "hr" then do
    closeParagraphInScope
    insertClosed tag
    disallowFrameset
  else if name = "image" then openVoid { tag with name := "img" }
  else if name = "textarea" then do
    modify fun b => { b with skipLineFeed := true, framesetAllowed := false }
    insertRaw tag (.escapable name)
  else if name = "xmp" then do
    closeParagraphInScope
    reopenFormatting
    disallowFrameset
    insertRaw tag (.raw name)
  else if name = "iframe" then do
    disallowFrameset
    insertRaw tag (.raw name)
  else if name = "noembed" ∨ name = "noscript" then insertRaw tag (.raw name)
  else if name = "select" then openSelect tag
  else if name = "option" ∨ name = "optgroup" then do
    if ← currentIs ["option"] then pop
    reopenFormatting
    insert tag
  else if name = "rb" ∨ name = "rtc" then do
    if ← inScope endsScope ["ruby"] then closeImplied impliedEnds
    insert tag
  else if name = "rp" ∨ name = "rt" then do
    if ← inScope endsScope ["ruby"] then closeImpliedExcept "rtc"
    insert tag
  else if name = "math" then openForeign .mathml tag
  else if name = "svg" then openForeign .svg tag
  else if ["caption", "col", "colgroup", "frame", "head", "tbody", "td", "tfoot", "th", "thead",
      "tr"].contains name then return
  else do
    reopenFormatting
    insert tag

def closeForm : Build Unit := do
  if ← hasTemplate then
    if ← inScope endsScope ["form"] then
      closeImplied impliedEnds
      popThroughName "form"
  else
    let form := (← get).form
    modify fun b => { b with form := none }
    match form with
    | none => return
    | some id =>
      if reaches endsScope (·.id == id) (← get).stack then
        closeImplied impliedEnds
        dropOpen id

def closeInScope (ends : Open → Bool) (name : String) : Build Bool := do
  if ← inScope ends [name] then
    closeImplied impliedEnds
    popThroughName name
    return true
  else return false

def closeInBody (tag : Tag) : Build Outcome := do
  let name := tag.name
  if name = "template" then used closeTemplate
  else if name = "body" then
    if ← inScope endsScope ["body"] then setMode .afterBody
    return .done
  else if name = "html" then
    if ← inScope endsScope ["body"] then return .again .afterBody (.close tag) else return .done
  else if closableBlockNames.contains name then used (do let _ ← closeInScope endsScope name)
  else if name = "form" then used closeForm
  else if name = "p" then
    if !(← inScope endsButtonScope ["p"]) then insertPlain "p"
    used closeParagraph
  else if ["li", "dd", "dt"].contains name then
    if ← inScope (if name = "li" then endsListScope else endsScope) [name] then
      closeImpliedExcept name
      popThroughName name
    return .done
  else if headings.contains name then
    if ← inScope endsScope headings then
      closeImplied impliedEnds
      popThrough (isHtml headings)
    return .done
  else if formattingNames.contains name then used (closeFormatting name)
  else if ["applet", "marquee", "object"].contains name then
    if ← closeInScope endsScope name then clearToMarker
    return .done
  else if name = "br" then used (openVoid ⟨"br", [], false⟩)
  else used (closeAny name)

def inBody (token : Token) : Build Outcome :=
  match token with
  | .char c => used do
    reopenFormatting
    if !isSpace c then disallowFrameset
    addText c
  | .comment s => used (addComment s)
  | .open tag => used (openInBody tag)
  | .close tag => closeInBody tag
  | .eof => endOfPage
  | _ => ignored

def inTemplate (token : Token) : Build Outcome :=
  match token with
  | .char _ | .comment _ => inBody token
  | .open tag =>
    if headNames.contains tag.name then inHead token
    else match tag.name with
      | "caption" | "colgroup" | "tbody" | "tfoot" | "thead" => retemplate .inTable token
      | "col" => retemplate .inColumnGroup token
      | "tr" => retemplate .inTableBody token
      | "td" | "th" => retemplate .inRow token
      | _ => retemplate .inBody token
  | .close tag => if tag.name = "template" then inHead token else ignored
  | .eof => endInTemplate
  | _ => ignored

end Spiderworks.Html.Builder
