import Spiderworks.Text.Digits

namespace Spiderworks

inductive UrlError where
  | noScheme
  | emptyHost
  | domain
  | hostLetter
  | port
  | ipv4
  | ipv6
  deriving DecidableEq, Repr

def UrlError.message : UrlError → String
  | .noScheme => "relative URL without a base"
  | .emptyHost => "empty host"
  | .domain => "invalid international domain name"
  | .hostLetter => "invalid domain character"
  | .port => "invalid port number"
  | .ipv4 => "invalid IPv4 address"
  | .ipv6 => "invalid IPv6 address"

end Spiderworks

namespace Spiderworks.Url

-- ### Version 4: up to four numbers, decimal, octal or hexadecimal

-- None where the text is no number; a number may be too large for an address.
def addressNumber? (s : List Char) : Option Nat :=
  let read (radix : Nat) (ds : List Char) : Option Nat :=
    if ds.all fun c => (Text.hexValue? c).any (· < radix) then
      some (ds.foldl (fun n c => n * radix + (Text.hexValue? c).getD 0) 0)
    else none
  match s with
  | [] => none
  | '0' :: 'x' :: ds | '0' :: 'X' :: ds => read 16 ds
  | '0' :: d :: ds => read 8 (d :: ds)
  | ds => read 10 ds

-- A host whose last part looks like a number has to be an address.
def endsInNumber (s : List Char) : Bool :=
  let isNumber (p : List Char) : Bool :=
    (!p.isEmpty && p.all Text.isDigit) || (addressNumber? p).isSome
  match (s.splitOn '.').reverse with
  | [] :: p :: _ => isNumber p
  | p :: _ => isNumber p
  | [] => false

-- The last number fills the bytes that the others leave.
def ipv4 (s : List Char) : Except UrlError Nat :=
  let parts := s.splitOn '.'
  let parts := if parts.getLast? = some [] then parts.dropLast else parts
  match parts.mapM addressNumber? with
  | none => .error .ipv4
  | some numbers =>
    match numbers.reverse with
    | [] => .error .ipv4
    | last :: others =>
      if 3 < others.length ∨ others.any (255 < ·) ∨ Nat.pow 256 (4 - others.length) ≤ last then
        .error .ipv4
      else
        .ok (others.reverse.foldl (fun n p => n * 256 + p) 0 * Nat.pow 256 (4 - others.length) +
          last)

-- ### Version 6: eight pieces of up to four hexadecimal digits

-- A dotted address in place of the last two pieces: four numbers below 256 without leading zeros.
def isDotted (s : List Char) : Bool :=
  let parts := s.splitOn '.'
  parts.length == 4 && parts.all fun p =>
    !p.isEmpty && p.all Text.isDigit && (p.length == 1 || p.head? != some '0') &&
      Text.digitsValue p ≤ 255

def isPiece (s : List Char) : Bool :=
  !s.isEmpty && s.length ≤ 4 && s.all fun c => (Text.hexValue? c).isSome

-- The number of pieces in a part without `::`. Only the end of an address may be dotted.
def pieceCount? (atEnd : Bool) (s : List Char) : Option Nat :=
  if s.isEmpty then some 0
  else
    let parts := s.splitOn ':'
    match parts.getLast? with
    | none => none
    | some last =>
      if parts.dropLast.all isPiece then
        if isPiece last then some parts.length
        else if atEnd ∧ isDotted last then some (parts.length + 1)
        else none
      else none

-- What stands on both sides of the first `::`.
def splitAtGap? : List Char → Option (List Char × List Char)
  | ':' :: ':' :: s => some ([], s)
  | c :: s => (splitAtGap? s).map fun (before, after) => (c :: before, after)
  | [] => none

-- A gap may stand for no piece at all as long as no eighth piece comes before it.
def isIpv6 (s : List Char) : Bool :=
  match splitAtGap? s with
  | none => pieceCount? true s == some 8
  | some (before, after) =>
    match pieceCount? false before, pieceCount? true after with
    | some a, some b => a + b ≤ 7
    | _, _ => false

end Spiderworks.Url
