import Spiderworks.Json.Basic
import Spiderworks.Decimal.Shortest

namespace Spiderworks.Json

open Spiderworks.Decimal

def escapeChar (c : Char) : List Char :=
  if c = '"' then ['\\', '"']
  else if c = '\\' then ['\\', '\\']
  else if c = '\n' then ['\\', 'n']
  else if c = '\r' then ['\\', 'r']
  else if c = '\t' then ['\\', 't']
  else if c = '\x08' then ['\\', 'b']
  else if c = '\x0c' then ['\\', 'f']
  else if c.toNat < 32 then ['\\', 'u', '0', '0'] ++ Text.hexByte c.toNat
  else [c]

def quoted (s : List Char) : List Char := '"' :: s.flatMap escapeChar ++ ['"']

-- Up to sixteen digits before the point, and down to the fifth place behind it, a double is
-- written without an exponent. An exponent always has its sign.
def doubleDigits (d : Digits) : List Char :=
  let ds := Text.ofNat d.digits
  let k := d.exponent
  let point := ds.length + k
  if 0 ≤ k ∧ point ≤ 16 then ds ++ List.replicate k.toNat '0' ++ ['.', '0']
  else if 0 < point ∧ point ≤ 16 then ds.take point.toNat ++ '.' :: ds.drop point.toNat
  else if -5 < point ∧ point ≤ 0 then
    ['0', '.'] ++ List.replicate (-point).toNat '0' ++ ds
  else
    let e := point - 1
    let mantissa := match ds with
      | [d] => [d]
      | d :: rest => d :: '.' :: rest
      | [] => []
    let sign := if e < 0 then '-' else '+'
    mantissa ++ 'e' :: sign :: Text.ofNat e.natAbs

-- JSON has no text for an infinity or for no number.
def double (x : Float) : List Char :=
  match parts x with
  | .finite negative m q narrow =>
    let text := if m = 0 then ['0', '.', '0'] else doubleDigits (shortest .even m q narrow)
    if negative then '-' :: text else text
  | _ => "null".toList

def number : Number → List Char
  | .whole n => Text.ofInt n
  | .double x => double x

def keyword (b : Bool) : List Char := if b then "true".toList else "false".toList

mutual
def compactChars : Json → List Char
  | .null => "null".toList
  | .bool b => keyword b
  | .num n => number n
  | .str s => quoted s.toList
  | .arr items => '[' :: compactItems items
  | .obj entries => '{' :: compactEntries entries
termination_by structural v => v

-- What follows the opening bracket.
def compactItems : List Json → List Char
  | [] => [']']
  | [v] => compactChars v ++ [']']
  | v :: w :: rest => compactChars v ++ ',' :: compactItems (w :: rest)
termination_by structural vs => vs

def compactEntries : List (String × Json) → List Char
  | [] => ['}']
  | [(k, v)] => quoted k.toList ++ ':' :: compactChars v ++ ['}']
  | (k, v) :: e :: rest =>
    quoted k.toList ++ ':' :: compactChars v ++ ',' :: compactEntries (e :: rest)
termination_by structural es => es
end

def compact (v : Json) : String := String.ofList (compactChars v)

def newLine (level : Nat) : List Char := '\n' :: List.replicate (2 * level) ' '

mutual
def prettyChars (level : Nat) : Json → List Char
  | .null => "null".toList
  | .bool b => keyword b
  | .num n => number n
  | .str s => quoted s.toList
  | .arr [] => ['[', ']']
  | .arr (v :: vs) => '[' :: prettyItems level (v :: vs)
  | .obj [] => ['{', '}']
  | .obj (e :: es) => '{' :: prettyEntries level (e :: es)
termination_by structural v => v

def prettyItems (level : Nat) : List Json → List Char
  | [] => [']']
  | [v] => newLine (level + 1) ++ prettyChars (level + 1) v ++ newLine level ++ [']']
  | v :: w :: rest =>
    newLine (level + 1) ++ prettyChars (level + 1) v ++ ',' :: prettyItems level (w :: rest)
termination_by structural vs => vs

def prettyEntries (level : Nat) : List (String × Json) → List Char
  | [] => ['}']
  | [(k, v)] =>
    newLine (level + 1) ++ quoted k.toList ++ ':' :: ' ' :: prettyChars (level + 1) v ++
      newLine level ++ ['}']
  | (k, v) :: e :: rest =>
    newLine (level + 1) ++ quoted k.toList ++ ':' :: ' ' :: prettyChars (level + 1) v ++
      ',' :: prettyEntries level (e :: rest)
termination_by structural es => es
end

def pretty (v : Json) : String := String.ofList (prettyChars 0 v)

end Spiderworks.Json
