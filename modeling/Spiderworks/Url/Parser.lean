import Spiderworks.Text.Blank
import Spiderworks.Url.Address
import Spiderworks.Url.Domain

namespace Spiderworks

inductive Host where
  | domain (name : String)
  | ipv4 (n : Nat)
  | ipv6 (text : String)
  deriving DecidableEq, Repr

-- Only the scheme and the host of a URL can be wrong; whatever follows them is accepted.
structure Url where
  scheme : String
  host : Option Host
  deriving DecidableEq, Repr

namespace Url

-- Schemes whose URLs always have a host and take a backslash for a slash.
def hostSchemes : List String := ["http", "https", "ws", "wss", "ftp"]

inductive Kind where
  | withHost
  | file
  | other
  deriving DecidableEq, Repr

def kindOf (scheme : String) : Kind :=
  if hostSchemes.contains scheme then .withHost
  else if scheme = "file" then .file
  else .other

def isLetter (c : Char) : Bool := ('a' ≤ c && c ≤ 'z') || ('A' ≤ c && c ≤ 'Z')

def isSchemeLetter (c : Char) : Bool :=
  isLetter c || Text.isDigit c || c == '+' || c == '-' || c == '.'

-- Control characters and blanks at the ends do not count, nor do tabs and line ends anywhere.
def cleaned (s : List Char) : List Char :=
  let isEdge (c : Char) : Bool := c.toNat ≤ 0x20
  let inner := ((s.dropWhile isEdge).reverse.dropWhile isEdge).reverse
  inner.filter fun c => !(c == '\t' || c == '\n' || c == '\r')

def scheme? (s : List Char) : Option (String × List Char) :=
  match s.takeWhile isSchemeLetter, s.dropWhile isSchemeLetter with
  | c :: cs, ':' :: rest =>
    if isLetter c then some (Text.asciiLowerString (String.ofList (c :: cs)), rest) else none
  | _, _ => none

def endsAuthority (kind : Kind) (c : Char) : Bool :=
  c == '/' || c == '?' || c == '#' || (c == '\\' && kind != .other)

-- The bytes that a text with percent signs writes, as text again.
def percentBytes : List Char → List UInt8
  | '%' :: a :: b :: s =>
    match Text.hexValue? a, Text.hexValue? b with
    | some x, some y => UInt8.ofNat (x * 16 + y) :: percentBytes s
    | _, _ => 37 :: percentBytes (a :: b :: s)
  | c :: s => (String.singleton c).toUTF8.toList ++ percentBytes s
  | [] => []

def percentDecoded? (s : List Char) : Option (List Char) :=
  (String.fromUTF8? ⟨(percentBytes s).toArray⟩).map String.toList

def bracketed (s : List Char) : Except UrlError Host :=
  match s.drop 1 |>.reverse with
  | ']' :: inner =>
    if isIpv6 inner.reverse then .ok (.ipv6 (String.ofList inner.reverse)) else .error .ipv6
  | _ => .error .ipv6

def namedHost (s : List Char) : Except UrlError Host :=
  if s.head? = some '[' then bracketed s
  else
    match (percentDecoded? s).bind domain? with
    | none => .error .domain
    | some [] => .error .emptyHost
    | some name =>
      if endsInNumber name then (ipv4 name).map .ipv4 else .ok (.domain (String.ofList name))

-- A scheme without rules of its own takes any text without these characters.
def opaqueHost (s : List Char) : Except UrlError (Option Host) :=
  if s.head? = some '[' then (bracketed s).map some
  else if s.any fun c => "\x00\t\n\r #/:<>?@[\\]^|".toList.contains c then .error .hostLetter
  else .ok (if s.isEmpty then none else some (.domain (String.ofList s)))

-- The host ends at a colon, unless that stands in brackets.
def hostText (kind : Kind) (bracket : Bool) : List Char → List Char × List Char
  | [] => ([], [])
  | c :: s =>
    if (c = ':' ∧ !bracket) ∨ endsAuthority kind c then ([], c :: s)
    else
      let (host, rest) := hostText kind (c = '[' || (bracket && c ≠ ']')) s
      (c :: host, rest)

def checkPort (acc : Nat) : List Char → Except UrlError Unit
  | [] => .ok ()
  | c :: s =>
    if Text.isDigit c then
      let n := acc * 10 + Text.digitValue c
      if 65535 < n then .error .port else checkPort n s
    else if c = '/' ∨ c = '\\' ∨ c = '?' ∨ c = '#' then .ok ()
    else .error .port

-- The part of an authority after its last `@`, and whether something stands before that.
def afterUser (kind : Kind) (s : List Char) : Option Bool × List Char :=
  let authority := s.takeWhile fun c => !endsAuthority kind c
  if authority.contains '@' then
    let host := (authority.reverse.takeWhile (· ≠ '@')).reverse
    let before := authority.length - host.length - 1
    (some (0 < before), s.drop (before + 1))
  else (none, s)

-- What follows the two slashes.
def authority (kind : Kind) (s : List Char) : Except UrlError (Option Host) := do
  let (user, rest) := afterUser kind s
  if user = some false ∧ (rest.head?).any (endsAuthority kind) then throw .emptyHost
  let (text, rest) := hostText kind false rest
  if kind = .withHost ∧ text.isEmpty then throw .emptyHost
  let host ← if kind = .other then opaqueHost text else (namedHost text).map some
  match rest with
  | ':' :: port =>
    if host.isNone then throw .emptyHost
    checkPort 0 port
  | _ => pure ()
  if host.isNone ∧ user = some true then throw .emptyHost
  return host

def isDriveLetter : List Char → Bool
  | [c, d] => isLetter c && (d == ':' || d == '|')
  | _ => false

-- A file has a host after two slashes of either kind, unless a drive stands there.
def fileHost (s : List Char) : Except UrlError (Option Host) :=
  let isSlash (c : Char) : Bool := c == '/' || c == '\\'
  match s with
  | a :: b :: rest =>
    if isSlash a ∧ isSlash b then
      let text := rest.takeWhile fun c => !endsAuthority .file c
      if text.isEmpty ∨ isDriveLetter text then .ok none else (namedHost text).map some
    else .ok none
  | _ => .ok none

def parse (s : String) : Except UrlError Url :=
  match scheme? (cleaned s.toList) with
  | none => .error .noScheme
  | some (scheme, rest) =>
    let host := match kindOf scheme, rest with
      | .withHost, _ => authority .withHost (rest.dropWhile fun c => c == '/' || c == '\\')
      | .file, _ => fileHost rest
      | .other, '/' :: '/' :: rest => authority .other rest
      | .other, _ => .ok none
    host.map fun host => ⟨scheme, host⟩

end Url

end Spiderworks
