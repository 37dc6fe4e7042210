import Spiderworks.Html.EntityTable
import Spiderworks.Html.Token

namespace Spiderworks.Html

-- The longest known name of a reference wins, and many names are known without their semicolon. In
-- an attribute value such a name stays as it is written when a letter, a digit or an equals sign
-- follows.
inductive Place where
  | text
  | attribute
  deriving DecidableEq, Repr

-- The characters that windows-1252 has where Unicode has control characters.
def windowsCodes : List Nat :=
  [0x20ac, 0x81, 0x201a, 0x192, 0x201e, 0x2026, 0x2020, 0x2021, 0x2c6, 0x2030, 0x160, 0x2039,
    0x152, 0x8d, 0x17d, 0x8f, 0x90, 0x2018, 0x2019, 0x201c, 0x201d, 0x2022, 0x2013, 0x2014, 0x2dc,
    0x2122, 0x161, 0x203a, 0x153, 0x9d, 0x17e, 0x178]

def replacement : Char := '\ufffd'

def numericChar (n : Nat) : Char :=
  if n = 0 ∨ 0x10ffff < n ∨ (0xd800 ≤ n ∧ n ≤ 0xdfff) then replacement
  else if 0x80 ≤ n ∧ n ≤ 0x9f then Char.ofNat (windowsCodes.getD (n - 0x80) n)
  else Char.ofNat n

-- A reference with its text and with what that text takes up, the ampersand left out.
structure Reference where
  text : List Char
  length : Nat
  deriving Repr

def closedLength (digits rest : List Char) (before : Nat) : Nat :=
  before + digits.length + (if rest.head? = some ';' then 1 else 0)

def numeric? (radix before : Nat) (isRadixDigit : Char → Bool) (s : List Char) :
    Option Reference :=
  let digits := s.takeWhile isRadixDigit
  if digits.isEmpty then none
  else
    let n := digits.foldl (fun n c => n * radix + (Text.hexValue? c).getD 0) 0
    some ⟨[numericChar n], closedLength digits (s.dropWhile isRadixDigit) before⟩

def isAlphanumeric (c : Char) : Bool := isLetter c || Text.isDigit c

-- Tries the names that `s` starts with, the longest one first.
def named? (place : Place) (s : List Char) : Nat → Option Reference
  | 0 => none
  | n + 1 =>
    match if n < s.length then entities[String.ofList (s.take (n + 1))]? else none with
    | none => named? place s n
    | some text =>
      let open? := s[n]? != some ';'
      let continued := (s[n + 1]?).any fun c => c == '=' || isAlphanumeric c
      if place == .attribute && open? && continued then none else some ⟨text, n + 1⟩

-- The reference after an ampersand.
def reference? (place : Place) : List Char → Option Reference
  | '#' :: 'x' :: s => numeric? 16 2 (fun c => (Text.hexValue? c).isSome) s
  | '#' :: 'X' :: s => numeric? 16 2 (fun c => (Text.hexValue? c).isSome) s
  | '#' :: s => numeric? 10 1 Text.isDigit s
  | s => named? place (s.take (longestEntity + 2)) longestEntity

-- `skip` counts the characters that belong to a reference whose text is written already.
def decodeAfter (place : Place) : Nat → List Char → List Char
  | _, [] => []
  | skip + 1, _ :: s => decodeAfter place skip s
  | 0, c :: s =>
    if c = '&' then
      match reference? place s with
      | some r => r.text ++ decodeAfter place r.length s
      | none => c :: decodeAfter place 0 s
    else c :: decodeAfter place 0 s

def decode (place : Place) (s : List Char) : List Char := decodeAfter place 0 s

end Spiderworks.Html
