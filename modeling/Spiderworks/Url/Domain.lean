import Spiderworks.Text.Blank
import Spiderworks.Url.Address
import Spiderworks.Url.DomainTable
import Spiderworks.Url.Punycode

namespace Spiderworks.Url

open DomainTable
open Spiderworks.Text (isIn)

-- ASCII characters that no host contains.
def isForbidden (c : Char) : Bool :=
  c.toNat ≤ 0x20 || c == '\x7f' || "#%/:<>?@[\\]^|".toList.contains c

def isRefused (c : Char) : Bool := isIn refused c

-- A letter that stays what it is.
def isSettled (c : Char) : Bool := !isRefused c && (image? c).isNone

-- Letters are brought to one form, and each label has to be well formed. The answer keeps labels as
-- they are written in Unicode.
def mapLetters? (s : List Char) : Option (List Char) :=
  if s.any isRefused then none else some (s.flatMap fun c => (image? c).getD [c])

-- ### Joiners

def skipThrough (s : List Char) : List Char := s.dropWhile (isIn joinsThrough)

-- `before` has the nearest letter first.
def joinerAllowed (before after : List Char) (c : Char) : Bool :=
  (before.head?).any (isIn viramas) ||
    (c == '\u200c' &&
      ((skipThrough before).head?).any (fun d => isIn joinsBoth d || isIn joinsBefore d) &&
      ((skipThrough after).head?).any (fun d => isIn joinsBoth d || isIn joinsAfter d))

def joinersAllowed (before : List Char) : List Char → Bool
  | [] => true
  | c :: s =>
    (if c = '\u200c' ∨ c = '\u200d' then joinerAllowed before s c else true) &&
      joinersAllowed (c :: before) s

-- ### Direction

def isArabic (s : List Char) : Bool :=
  s.any fun c => direction c == .rightToLeft || direction c == .arabicDigit

-- A label runs in one direction, which its first letter tells.
def directionAllowed (s : List Char) : Bool :=
  let ds := s.map direction
  let last := (ds.reverse.dropWhile (· == .mark)).head?
  match ds.head? with
  | some .rightToLeft =>
    ds.all (· != .leftToRight) &&
      last.any (fun d => d == .rightToLeft || d == .digit || d == .arabicDigit) &&
      !(ds.contains .digit && ds.contains .arabicDigit)
  | some .leftToRight =>
    ds.all (fun d => d != .rightToLeft && d != .arabicDigit) &&
      last.any fun d => d == .leftToRight || d == .digit
  | some _ => false
  | none => true

-- ### Labels

def isAscii (s : List Char) : Bool := s.all (·.toNat < 128)

def labelAllowed (s : List Char) : Bool :=
  isAscii s || (!(s.head?).any (isIn marks) && joinersAllowed [] s)

-- A label in Unicode. One that is written in ASCII has to say something that ASCII cannot.
def label? (s : List Char) : Option (List Char) :=
  if "xn--".toList.isPrefixOf s then
    if isAscii s then
      match Punycode.decode? (s.drop 4) with
      | some decoded =>
        if !isAscii decoded ∧ decoded.all isSettled ∧ labelAllowed decoded then some decoded
        else none
      | none => none
    else none
  else if labelAllowed s then some s
  else none

-- None where a name is not a domain.
def domain? (s : List Char) : Option (List Char) :=
  match mapLetters? s with
  | none => none
  | some mapped =>
    match (mapped.splitOn '.').mapM label? with
    | none => none
    | some labels =>
      if labels.any (·.any isForbidden) then none
      else if labels.any isArabic ∧ !labels.all directionAllowed then none
      else some (['.'].intercalate labels)

end Spiderworks.Url
