import Spiderworks.Html.Doctype
import Spiderworks.Html.Reference

namespace Spiderworks.Html

open Spiderworks.Page (Attribute)

-- Line ends become line feeds.
def unifyLineEnds : List Char → List Char
  | '\r' :: '\n' :: s => '\n' :: unifyLineEnds s
  | '\r' :: s => '\n' :: unifyLineEnds s
  | c :: s => c :: unifyLineEnds s
  | [] => []

-- A byte order mark in front is no part of the page.
def pageText (s : String) : List Char :=
  unifyLineEnds (match s.toList with
    | '\ufeff' :: rest => rest
    | cs => cs)

def visible (c : Char) : Char := if c = '\x00' then replacement else c

namespace Scanner

-- Where the scanner stands inside a tag. Names and values are kept last character first. A tag in
-- which the page ends is dropped.
inductive TagState where
  | name
  | before
  | named (name : List Char)
  | after (name : List Char)
  | equals (name : List Char)
  | quoted (quote : Char) (name value : List Char)
  | bare (name value : List Char)
  | closedQuote
  | slash

structure TagScan where
  state : TagState
  name : List Char
  attributes : List Attribute

namespace TagScan

-- The first attribute of a name is the one that counts.
def finished (t : TagScan) (name value : List Char) : List Attribute :=
  let name := String.ofList name.reverse
  if t.attributes.any (·.name == name) then t.attributes
  else ⟨.none, name, String.ofList (decode .attribute value.reverse)⟩ :: t.attributes

def close (t : TagScan) (selfClosing : Bool) : Tag :=
  let attributes := match t.state with
    | .named name | .after name | .equals name => t.finished name []
    | .bare name value => t.finished name value
    | _ => t.attributes
  ⟨String.ofList t.name.reverse, attributes.reverse, selfClosing⟩

def lower (c : Char) : Char := visible (Text.asciiLower c)

-- One character where a new attribute may start.
def stepBefore (t : TagScan) (c : Char) : TagScan :=
  if isSpace c then { t with state := .before }
  else if c = '/' then { t with state := .slash }
  else { t with state := .named [lower c] }

-- One character other than the closing bracket of the tag, or that bracket inside quotes.
def step (t : TagScan) (c : Char) : TagScan :=
  match t.state with
  | .name =>
    if isSpace c || c == '/' then t.stepBefore c else { t with name := lower c :: t.name }
  | .before | .closedQuote | .slash => t.stepBefore c
  | .named name =>
    if isSpace c then { t with state := .after name }
    else if c = '/' then { t with state := .slash, attributes := t.finished name [] }
    else if c = '=' then { t with state := .equals name }
    else { t with state := .named (lower c :: name) }
  | .after name =>
    if isSpace c then t
    else if c = '=' then { t with state := .equals name }
    else { t with attributes := t.finished name [] }.stepBefore c
  | .equals name =>
    if isSpace c then t
    else if c = '"' ∨ c = '\'' then { t with state := .quoted c name [] }
    else { t with state := .bare name [visible c] }
  | .quoted quote name value =>
    if c = quote then { t with state := .closedQuote, attributes := t.finished name value }
    else { t with state := .quoted quote name (visible c :: value) }
  | .bare name value =>
    if isSpace c then { t with state := .before, attributes := t.finished name value }
    else { t with state := .bare name (visible c :: value) }

def isQuoted (t : TagScan) : Bool := match t.state with
  | .quoted _ _ _ => true
  | _ => false

def isSlash (t : TagScan) : Bool := match t.state with
  | .slash => true
  | _ => false

end TagScan

-- The tag, and what follows its closing bracket.
def tag? (t : TagScan) : List Char → Option (Tag × List Char)
  | [] => none
  | c :: s => if c = '>' ∧ !t.isQuoted then some (t.close t.isSlash, s) else tag? (t.step c) s

-- How much of a possible comment end has been read: `open` and `openDash` stand right after the
-- opening, where a bracket ends the comment at once.
inductive CommentState where
  | open
  | openDash
  | inside
  | dash
  | dashes
  | bang

def CommentState.held : CommentState → List Char
  | .open | .inside => []
  | .openDash | .dash => ['-']
  | .dashes => ['-', '-']
  | .bang => ['!', '-', '-']

-- `text` is kept last character first.
def commentAfter (state : CommentState) (text : List Char) : List Char → List Char × List Char
  | [] => (text.reverse, [])
  | c :: s =>
    match state, c with
    | .open, '>' | .openDash, '>' | .dashes, '>' | .bang, '>' => (text.reverse, s)
    | .open, '-' => commentAfter .openDash text s
    | .openDash, '-' | .dash, '-' => commentAfter .dashes text s
    | .inside, '-' => commentAfter .dash text s
    | .dashes, '-' => commentAfter .dashes ('-' :: text) s
    | .dashes, '!' => commentAfter .bang text s
    | .bang, '-' => commentAfter .dash (state.held ++ text) s
    | _, c => commentAfter .inside (visible c :: (state.held ++ text)) s

-- Anything up to the next bracket.
def bogusComment (s : List Char) : List Token × List Char :=
  let text := (s.takeWhile (· ≠ '>')).map visible
  ([.comment (String.ofList text)], (s.dropWhile (· ≠ '>')).drop 1)

def charToken (c : Char) : Token := if c = '\x00' then .null else .char c

-- Text up to `]]>`, without references.
def section? : List Char → List Char × List Char
  | ']' :: ']' :: '>' :: s => ([], s)
  | c :: s => let (text, rest) := section? s; (c :: text, rest)
  | [] => ([], [])

def startsWith (word s : List Char) : Bool := (s.take word.length).map Text.asciiLower == word

-- After `<!`.
def declaration (foreign : Bool) (s : List Char) : List Token × List Char :=
  if "--".toList.isPrefixOf s then
    let (text, rest) := commentAfter .open [] (s.drop 2)
    ([.comment (String.ofList text)], rest)
  else if startsWith "doctype".toList s then
    let body := (s.drop 7).takeWhile (· ≠ '>')
    let rest := (s.drop 7).dropWhile (· ≠ '>')
    ([.doctype (Doctype.ofText body !rest.isEmpty)], rest.drop 1)
  else if foreign ∧ "[CDATA[".toList.isPrefixOf s then
    let (text, rest) := section? (s.drop 7)
    (text.map charToken, rest)
  else bogusComment s

-- After `<`, in ordinary text.
def markup (foreign : Bool) (s : List Char) : List Token × List Char :=
  match s with
  | '!' :: rest => declaration foreign rest
  | '?' :: _ => bogusComment s
  | '/' :: '>' :: rest => ([], rest)
  | ['/'] => ([.char '<', .char '/'], [])
  | '/' :: c :: rest =>
    if isLetter c then
      match tag? ⟨.name, [], []⟩ (c :: rest) with
      | some (tag, rest) => ([.close tag], rest)
      | none => ([], [])
    else bogusComment (c :: rest)
  | c :: rest =>
    if isLetter c then
      match tag? ⟨.name, [], []⟩ (c :: rest) with
      | some (tag, rest) => ([.open tag], rest)
      | none => ([], [])
    else ([.char '<'], s)
  | [] => ([.char '<'], [])

-- Whether a text starts with a name, in any case of its letters, that ends there.
def startsWithName (name s : List Char) : Bool :=
  startsWith name s && ((s.drop name.length).head?).any fun c => isSpace c || c == '/' || c == '>'

def startsWithEnd (name s : List Char) : Bool :=
  match s with
  | '<' :: '/' :: rest => startsWithName name rest
  | _ => false

-- Text up to the end tag of the element that it stands in.
def rawText (name : List Char) : List Char → List Char × List Char
  | [] => ([], [])
  | c :: s =>
    if startsWithEnd name (c :: s) then ([], c :: s)
    else let (text, rest) := rawText name s; (c :: text, rest)

-- Inside a script, a comment may hold a script of its own, whose end tag is not the end of the
-- outer one. `dashes` counts those right before, up to two; `skip` counts characters that are
-- read without a look at them.
inductive ScriptState where
  | plain
  | hidden (dashes : Nat)
  | nested (dashes : Nat)
  | skip (count : Nat) (next : ScriptState)

def scriptName : List Char := "script".toList

-- The state after one more character of a comment, where `inside` is the state in the comment
-- for a number of dashes.
def afterDashes (inside : Nat → ScriptState) (dashes : Nat) (c : Char) : ScriptState :=
  if c = '-' then inside (min 2 (dashes + 1))
  else if c = '>' ∧ dashes = 2 then .plain
  else inside 0

-- None where the end tag of the script starts.
def ScriptState.step (state : ScriptState) (s : List Char) : Option ScriptState :=
  match state, s with
  | _, [] => none
  | .skip (count + 1) next, _ => some (.skip count next)
  | .skip 0 next, _ => some next
  | .plain, c :: rest =>
    if startsWithEnd scriptName (c :: rest) then none
    else if "<!--".toList.isPrefixOf (c :: rest) then some (.skip 2 (.hidden 2))
    else some .plain
  | .hidden dashes, c :: rest =>
    if startsWithEnd scriptName (c :: rest) then none
    else if c = '<' ∧ startsWithName scriptName rest then some (.skip 6 (.nested 0))
    else some (afterDashes .hidden dashes c)
  | .nested dashes, c :: rest =>
    if startsWithEnd scriptName (c :: rest) then some (.skip 7 (.hidden 0))
    else some (afterDashes .nested dashes c)

def scriptText (state : ScriptState) : List Char → List Char × List Char
  | [] => ([], [])
  | c :: s =>
    match state.step (c :: s) with
    | none => ([], c :: s)
    | some next => let (text, rest) := scriptText next s; (c :: text, rest)

def rawTokens (text : List Char) : List Token := text.map fun c => .char (visible c)

-- The next tokens of a text that is not empty. `foreign` says that the current element is not
-- an HTML one.
def next (content : Content) (foreign : Bool) (s : List Char) : List Token × List Char :=
  let (text, rest) : List Char × List Char := match content with
    | .data => (s.takeWhile (· ≠ '<'), s.dropWhile (· ≠ '<'))
    | .escapable name | .raw name => rawText name.toList s
    | .script => scriptText .plain s
    | .plain => (s, [])
  let tokens := match content with
    | .data => (decode .text text).map charToken
    | .escapable _ => rawTokens (decode .text text)
    | _ => rawTokens text
  match text, rest with
  | [], _ :: rest => markup foreign rest
  | _, rest => (tokens, rest)

end Scanner

end Spiderworks.Html
