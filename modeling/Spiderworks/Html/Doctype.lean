import Spiderworks.Html.Token
import Spiderworks.Text.Blank

namespace Spiderworks.Html

namespace Doctype

-- A declaration whose public identifier starts with one of these stands for a page that was written
-- for the layout rules of old browsers.
def oldPublicStarts : List String :=
  ["+//silmaril//dtd html pro v0r11 19970101//",
    "-//advasoft ltd//dtd html 3.0 aswedit + extensions//",
    "-//as//dtd html 3.0 aswedit + extensions//", "-//ietf//dtd html 2.0 level 1//",
    "-//ietf//dtd html 2.0 level 2//", "-//ietf//dtd html 2.0 strict level 1//",
    "-//ietf//dtd html 2.0 strict level 2//", "-//ietf//dtd html 2.0 strict//",
    "-//ietf//dtd html 2.0//", "-//ietf//dtd html 2.1e//", "-//ietf//dtd html 3.0//",
    "-//ietf//dtd html 3.2 final//", "-//ietf//dtd html 3.2//", "-//ietf//dtd html 3//",
    "-//ietf//dtd html level 0//", "-//ietf//dtd html level 1//", "-//ietf//dtd html level 2//",
    "-//ietf//dtd html level 3//", "-//ietf//dtd html strict level 0//",
    "-//ietf//dtd html strict level 1//", "-//ietf//dtd html strict level 2//",
    "-//ietf//dtd html strict level 3//", "-//ietf//dtd html strict//", "-//ietf//dtd html//",
    "-//metrius//dtd metrius presentational//",
    "-//microsoft//dtd internet explorer 2.0 html strict//",
    "-//microsoft//dtd internet explorer 2.0 html//",
    "-//microsoft//dtd internet explorer 2.0 tables//",
    "-//microsoft//dtd internet explorer 3.0 html strict//",
    "-//microsoft//dtd internet explorer 3.0 html//",
    "-//microsoft//dtd internet explorer 3.0 tables//",
    "-//netscape comm. corp.//dtd html//", "-//netscape comm. corp.//dtd strict html//",
    "-//o'reilly and associates//dtd html 2.0//",
    "-//o'reilly and associates//dtd html extended 1.0//",
    "-//o'reilly and associates//dtd html extended relaxed 1.0//",
    "-//softquad software//dtd hotmetal pro 6.0::19990601::extensions to html 4.0//",
    "-//softquad//dtd hotmetal pro 4.0::19971010::extensions to html 4.0//",
    "-//spyglass//dtd html 2.0 extended//", "-//sq//dtd html 2.0 hotmetal + extensions//",
    "-//sun microsystems corp.//dtd hotjava html//",
    "-//sun microsystems corp.//dtd hotjava strict html//", "-//w3c//dtd html 3 1995-03-24//",
    "-//w3c//dtd html 3.2 draft//", "-//w3c//dtd html 3.2 final//", "-//w3c//dtd html 3.2//",
    "-//w3c//dtd html 3.2s draft//", "-//w3c//dtd html 4.0 frameset//",
    "-//w3c//dtd html 4.0 transitional//", "-//w3c//dtd html experimental 19960712//",
    "-//w3c//dtd html experimental 970421//", "-//w3c//dtd w3 html//", "-//w3o//dtd w3 html 3.0//",
    "-//webtechs//dtd mozilla html 2.0//", "-//webtechs//dtd mozilla html//"]

def oldPublic : List String :=
  ["-//w3o//dtd w3 html strict 3.0//en//", "-/w3c/dtd html 4.0 transitional/en", "html"]

-- Old only when no system identifier stands beside the public one.
def oldAlone : List String :=
  ["-//w3c//dtd html 4.01 frameset//", "-//w3c//dtd html 4.01 transitional//"]

def oldSystem : String := "http://www.ibm.com/data/dtd/v11/ibmxhtml1-transitional.dtd"

-- `broken` is set where the declaration departs from its syntax.
structure Parts where
  name : List Char
  publicId : Option (List Char)
  systemId : Option (List Char)
  broken : Bool

def skipSpace (s : List Char) : List Char := s.dropWhile isSpace

-- An identifier in quotes; without the closing one it is cut off.
def quotedId (quote : Char) (s : List Char) : List Char × Bool × List Char :=
  let id := s.takeWhile (· ≠ quote)
  match s.dropWhile (· ≠ quote) with
  | _ :: rest => (id, false, rest)
  | [] => (id, true, [])

def systemPart (name : List Char) (publicId : Option (List Char)) (required : Bool)
    (s : List Char) : Parts :=
  match skipSpace s with
  | [] => ⟨name, publicId, none, required⟩
  | c :: rest =>
    if c = '"' ∨ c = '\'' then
      let (id, cut, _) := quotedId c rest
      ⟨name, publicId, some id, cut⟩
    else ⟨name, publicId, none, true⟩

def publicPart (name s : List Char) : Parts :=
  match skipSpace s with
  | [] => ⟨name, none, none, true⟩
  | c :: rest =>
    if c = '"' ∨ c = '\'' then
      let (id, cut, rest) := quotedId c rest
      if cut then ⟨name, some id, none, true⟩ else systemPart name (some id) false rest
    else ⟨name, none, none, true⟩

-- The parts of what stands between `<!doctype` and the closing bracket.
def parts (s : List Char) : Parts :=
  let s := skipSpace s
  let name := (s.takeWhile fun c => !isSpace c).map Text.asciiLower
  let rest := skipSpace (s.dropWhile fun c => !isSpace c)
  let keyword := (rest.take 6).map Text.asciiLower
  if name.isEmpty then ⟨name, none, none, true⟩
  else if rest.isEmpty then ⟨name, none, none, false⟩
  else if keyword = "public".toList then publicPart name (rest.drop 6)
  else if keyword = "system".toList then systemPart name none true (rest.drop 6)
  else ⟨name, none, none, true⟩

def startsWithOneOf (starts : List String) (s : List Char) : Bool :=
  starts.any fun start => start.toList.isPrefixOf s

def Parts.isOld (p : Parts) : Bool :=
  let publicId := (p.publicId.getD []).map Text.asciiLower
  let systemId := (p.systemId.getD []).map Text.asciiLower
  p.broken || p.name != "html".toList || oldPublic.any (·.toList == publicId) ||
    startsWithOneOf oldPublicStarts publicId || systemId == oldSystem.toList ||
    (p.systemId.isNone && startsWithOneOf oldAlone publicId)

-- `complete` is false when the page ends before the declaration does.
def ofText (s : List Char) (complete : Bool) : Doctype := ⟨!complete || (parts s).isOld⟩

end Doctype

end Spiderworks.Html
