import Spiderworks.Html.Builder.Body

namespace Spiderworks.Html.Builder

def tableParts : List String := ["table", "tbody", "tfoot", "thead", "tr"]

def sectionNames : List String := ["tbody", "tfoot", "thead"]

def cellNames : List String := ["td", "th"]

-- Content that a table cannot hold goes before it.
def fostered (token : Token) : Build Outcome := do
  modify fun b => { b with fostering := true }
  let outcome ← inBody token
  modify fun b => { b with fostering := false }
  return outcome

-- Text inside a table is collected first.
def tableText (token : Token) : Build Outcome := do
  if ← currentIs tableParts then
    modify fun b => { b with pending := [], textReturn := b.mode }
    return .again .inTableText token
  else fostered token

def openInTable (tag : Tag) : Build Outcome := do
  let token := Token.open tag
  match tag.name with
  | "caption" => used do
    popTo ["html", "table", "template"]
    pushMarker
    insert tag
    setMode .inCaption
  | "colgroup" => used do
    popTo ["html", "table", "template"]
    insert tag
    setMode .inColumnGroup
  | "col" =>
    popTo ["html", "table", "template"]
    insertPlain "colgroup"
    return .again .inColumnGroup token
  | "tbody" | "tfoot" | "thead" => used do
    popTo ["html", "table", "template"]
    insert tag
    setMode .inTableBody
  | "td" | "th" | "tr" =>
    popTo ["html", "table", "template"]
    insertPlain "tbody"
    return .again .inTableBody token
  | "table" =>
    if ← inScope endsTableScope ["table"] then
      popThroughName "table"
      return .again (← resetMode) token
    else return .done
  | "style" | "script" | "template" => inHead token
  | "input" => if isHidden tag then used (insertClosed tag) else fostered token
  | "form" =>
    if !(← hasTemplate) && (← get).form.isNone then
      let o ← insertIn .html tag.name tag.attributes
      modify fun b => { b with form := some o.id }
    return .done
  | _ => fostered token

def closeInTable (tag : Tag) : Build Outcome := do
  match tag.name with
  | "table" =>
    if ← inScope endsTableScope ["table"] then
      popThroughName "table"
      setMode (← resetMode)
    return .done
  | "body" | "caption" | "col" | "colgroup" | "html" | "tbody" | "td" | "tfoot" | "th" | "thead"
  | "tr" => ignored
  | "template" => inHead (.close tag)
  | _ => fostered (.close tag)

def inTable (token : Token) : Build Outcome :=
  match token with
  | .null | .char _ => tableText token
  | .comment s => used (addComment s)
  | .open tag => openInTable tag
  | .close tag => closeInTable tag
  | .eof => inBody token
  | .doctype _ => ignored

-- Blank text stays in the table; any other text is misplaced.
def inTableText (token : Token) : Build Outcome := do
  match token with
  | .null => ignored
  | .char c => used (modify fun b => { b with pending := c :: b.pending })
  | _ =>
    let pending := (← get).pending.reverse
    if pending.all isSpace then
      for c in pending do addText c
    else
      for c in pending do
        let _ ← fostered (.char c)
    return .again (← get).textReturn token

def inCaption (token : Token) : Build Outcome := do
  let leave (outcome : Outcome) : Build Outcome := do
    if ← inScope endsTableScope ["caption"] then
      closeImplied impliedEnds
      popThroughName "caption"
      clearToMarker
      setMode .inTable
      return outcome
    else return .done
  match token with
  | .open tag =>
    if ["caption", "col", "colgroup", "tbody", "td", "tfoot", "th", "thead", "tr"].contains
        tag.name then leave (.again .inTable token)
    else inBody token
  | .close tag =>
    match tag.name with
    | "caption" => leave .done
    | "table" => leave (.again .inTable token)
    | "body" | "col" | "colgroup" | "html" | "tbody" | "td" | "tfoot" | "th" | "thead" | "tr" =>
      ignored
    | _ => inBody token
  | _ => inBody token

def leaveColumnGroup (outcome : Outcome) : Build Outcome := do
  if ← currentIs ["colgroup"] then
    pop
    setMode .inTable
    return outcome
  else return .done

def inColumnGroup (token : Token) : Build Outcome :=
  let leave := leaveColumnGroup (.again .inTable token)
  match token with
  | .char c => if isSpace c then used (addText c) else leave
  | .comment s => used (addComment s)
  | .open tag =>
    match tag.name with
    | "html" => inBody token
    | "col" => used (insertClosed tag)
    | "template" => inHead token
    | _ => leave
  | .close tag =>
    match tag.name with
    | "colgroup" => leaveColumnGroup .done
    | "col" => ignored
    | "template" => inHead token
    | _ => leave
  | .eof => inBody token
  | _ => leave

def popToSection : Build Unit := popTo (sectionNames ++ ["template", "html"])

def popToRow : Build Unit := popTo ["tr", "template", "html"]

def inTableBody (token : Token) : Build Outcome := do
  let leave : Build Outcome := do
    if ← inScope endsTableScope ["table", "tbody", "tfoot"] then
      popToSection
      pop
      return .again .inTable token
    else return .done
  match token with
  | .open tag =>
    match tag.name with
    | "tr" => used do
      popToSection
      insert tag
      setMode .inRow
    | "td" | "th" =>
      popToSection
      insertPlain "tr"
      return .again .inRow token
    | "caption" | "col" | "colgroup" | "tbody" | "tfoot" | "thead" => leave
    | _ => inTable token
  | .close tag =>
    match tag.name with
    | "tbody" | "tfoot" | "thead" =>
      if ← inScope endsTableScope [tag.name] then
        popToSection
        pop
        setMode .inTable
      return .done
    | "table" => leave
    | "body" | "caption" | "col" | "colgroup" | "html" | "td" | "th" | "tr" => ignored
    | _ => inTable token
  | _ => inTable token

def closeRow : Build Unit := do
  popToRow
  pop
  setMode .inTableBody

def inRow (token : Token) : Build Outcome := do
  let leave : Build Outcome := do
    if ← inScope endsTableScope ["tr"] then
      closeRow
      return .again .inTableBody token
    else return .done
  match token with
  | .open tag =>
    match tag.name with
    | "td" | "th" => used do
      popToRow
      insert tag
      setMode .inCell
      pushMarker
    | "caption" | "col" | "colgroup" | "tbody" | "tfoot" | "thead" | "tr" => leave
    | _ => inTable token
  | .close tag =>
    match tag.name with
    | "tr" =>
      if ← inScope endsTableScope ["tr"] then closeRow
      return .done
    | "table" => leave
    | "tbody" | "tfoot" | "thead" =>
      if ← inScope endsTableScope [tag.name] then leave else return .done
    | "body" | "caption" | "col" | "colgroup" | "html" | "td" | "th" => ignored
    | _ => inTable token
  | _ => inTable token

def closeCell : Build Unit := do
  closeImplied impliedEnds
  popThrough (isHtml cellNames)
  clearToMarker

def inCell (token : Token) : Build Outcome := do
  let leave (names : List String) : Build Outcome := do
    if ← inScope endsTableScope names then
      closeCell
      return .again .inRow token
    else return .done
  match token with
  | .open tag =>
    if ["caption", "col", "colgroup", "tbody", "td", "tfoot", "th", "thead", "tr"].contains
        tag.name then leave cellNames
    else inBody token
  | .close tag =>
    match tag.name with
    | "td" | "th" =>
      if ← closeInScopeOf tag.name then
        clearToMarker
        setMode .inRow
      return .done
    | "table" | "tbody" | "tfoot" | "thead" | "tr" => leave [tag.name]
    | "body" | "caption" | "col" | "colgroup" | "html" => ignored
    | _ => inBody token
  | _ => inBody token
where
  closeInScopeOf (name : String) : Build Bool := closeInScope endsTableScope name

-- ### Selection lists

def leaveSelect (token : Token) : Build Outcome := do
  popThroughName "select"
  return .again (← resetMode) token

def closeSelect : Build Unit := do
  if ← inScope endsSelectScope ["select"] then
    popThroughName "select"
    setMode (← resetMode)

def closeOptgroup : Build Unit := do
  match (← get).stack with
  | o :: below :: _ => if isHtml ["option"] o && isHtml ["optgroup"] below then pop
  | _ => pure ()
  if ← currentIs ["optgroup"] then pop

def inSelect (token : Token) : Build Outcome := do
  match token with
  | .char c => used (addText c)
  | .comment s => used (addComment s)
  | .open tag =>
    match tag.name with
    | "html" => inBody token
    | "option" => used do
      if ← currentIs ["option"] then pop
      insert tag
    | "optgroup" => used do
      if ← currentIs ["option"] then pop
      if ← currentIs ["optgroup"] then pop
      insert tag
    | "select" => used closeSelect
    | "input" | "keygen" | "textarea" =>
      if ← inScope endsSelectScope ["select"] then leaveSelect token else return .done
    | "script" | "template" => inHead token
    | _ => ignored
  | .close tag =>
    match tag.name with
    | "optgroup" => used closeOptgroup
    | "option" => used do if ← currentIs ["option"] then pop
    | "select" => used closeSelect
    | "template" => inHead token
    | _ => ignored
  | .eof => inBody token
  | _ => ignored

def inSelectInTable (token : Token) : Build Outcome := do
  let names := ["caption", "table", "tbody", "tfoot", "thead", "tr", "td", "th"]
  match token with
  | .open tag => if names.contains tag.name then leaveSelect token else inSelect token
  | .close tag =>
    if names.contains tag.name then
      if ← inScope endsTableScope [tag.name] then leaveSelect token else return .done
    else inSelect token
  | _ => inSelect token

end Spiderworks.Html.Builder
