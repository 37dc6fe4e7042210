import Spiderworks.Json.Number

namespace Spiderworks.Json

open Spiderworks.Text

-- A text that ends too early is told from one that goes wrong. At most 127 arrays and objects may
-- be open at once, a pair of surrogate escapes is one character and a lone one is refused.
def isSpace (c : Char) : Bool := c == ' ' || c == '\n' || c == '\t' || c == '\r'

def skipSpace (s : List Char) : List Char := s.dropWhile isSpace

-- Where the reader stands inside a quoted string.
inductive Scan where
  | plain
  | escape
  | hex (left : Nat) (value : Nat) (high : Option Nat)
  | pairBackslash (high : Nat)
  | pairLetter (high : Nat)
  deriving DecidableEq

-- Four hexadecimal digits take four bytes.
def tooShortForHex (s : List Char) : Bool := (s.take 4).foldl (· + ·.utf8Size) 0 < 4

def escaped? : Char → Option Char
  | '"' => some '"'
  | '\\' => some '\\'
  | '/' => some '/'
  | 'b' => some '\x08'
  | 'f' => some '\x0c'
  | 'n' => some '\n'
  | 'r' => some '\r'
  | 't' => some '\t'
  | _ => none

def isHighSurrogate (n : Nat) : Bool := 0xd800 ≤ n && n ≤ 0xdbff

def isLowSurrogate (n : Nat) : Bool := 0xdc00 ≤ n && n ≤ 0xdfff

-- Everything up to the closing quote, and what follows it. `acc` is the text so far, last
-- character first.
def readQuoted (state : Scan) (acc : List Char) :
    List Char → Except ReadError (List Char × List Char)
  | [] => .error .cutShort
  | c :: rest =>
    match state with
    | .plain =>
      if c = '"' then .ok (acc.reverse, rest)
      else if c = '\\' then readQuoted .escape acc rest
      else if c.toNat < 32 then .error .malformed
      else readQuoted .plain (c :: acc) rest
    | .escape =>
      if c = 'u' then
        if tooShortForHex rest then .error .cutShort else readQuoted (.hex 4 0 none) acc rest
      else match escaped? c with
        | some d => readQuoted .plain (d :: acc) rest
        | none => .error .malformed
    | .hex left value high =>
      match hexValue? c with
      | none => .error .malformed
      | some d =>
        let n := value * 16 + d
        if 1 < left then readQuoted (.hex (left - 1) n high) acc rest
        else match high with
          | none =>
            if isLowSurrogate n then .error .malformed
            else if isHighSurrogate n then readQuoted (.pairBackslash n) acc rest
            else readQuoted .plain (Char.ofNat n :: acc) rest
          | some h =>
            if isLowSurrogate n then
              let joined := 0x10000 + (h - 0xd800) * 0x400 + (n - 0xdc00)
              readQuoted .plain (Char.ofNat joined :: acc) rest
            else .error .malformed
    | .pairBackslash h =>
      if c = '\\' then readQuoted (.pairLetter h) acc rest else .error .malformed
    | .pairLetter h =>
      if c = 'u' then
        if tooShortForHex rest then .error .cutShort else readQuoted (.hex 4 0 (some h)) acc rest
      else .error .malformed

-- The rest of a word of which the first letter has been read.
def readWord (v : Json) : List Char → List Char → Except ReadError (Json × List Char)
  | [], s => .ok (v, s)
  | _ :: _, [] => .error .cutShort
  | e :: expected, c :: s => if c = e then readWord v expected s else .error .malformed

-- `depth` more containers may be opened. Each call takes one unit of fuel, and two units for each
-- character are always enough. The entries of an object are kept as they are written.
mutual
def readValue (fuel depth : Nat) (s : List Char) : Except ReadError (Json × List Char) :=
  match fuel with
  | 0 => .error .malformed
  | fuel + 1 =>
    match skipSpace s with
    | [] => .error .cutShort
    | c :: r =>
      if c = 'n' then readWord .null ['u', 'l', 'l'] r
      else if c = 't' then readWord (.bool true) ['r', 'u', 'e'] r
      else if c = 'f' then readWord (.bool false) ['a', 'l', 's', 'e'] r
      else if c = '"' then do
        let (text, rest) ← readQuoted .plain [] r
        return (.str (String.ofList text), rest)
      else if c = '-' then do
        let (n, rest) ← readMagnitude true r
        return (.num n, rest)
      else if isDigit c then do
        let (n, rest) ← readMagnitude false (c :: r)
        return (.num n, rest)
      else if c = '[' then
        if depth = 0 then .error .malformed
        else match skipSpace r with
          | ']' :: rest => .ok (.arr [], rest)
          | r => do
            let (items, rest) ← readItems fuel (depth - 1) r
            return (.arr items, rest)
      else if c = '{' then
        if depth = 0 then .error .malformed
        else match skipSpace r with
          | '}' :: rest => .ok (.obj [], rest)
          | r => do
            let (entries, rest) ← readEntries fuel (depth - 1) r
            return (.obj entries, rest)
      else .error .malformed
termination_by structural fuel

def readItems (fuel depth : Nat) (s : List Char) : Except ReadError (List Json × List Char) :=
  match fuel with
  | 0 => .error .malformed
  | fuel + 1 => do
    let (v, rest) ← readValue fuel depth s
    match skipSpace rest with
    | [] => .error .cutShort
    | ']' :: rest => return ([v], rest)
    | ',' :: rest =>
      let (vs, rest) ← readItems fuel depth rest
      return (v :: vs, rest)
    | _ => .error .malformed
termination_by structural fuel

def readEntries (fuel depth : Nat) (s : List Char) :
    Except ReadError (List (String × Json) × List Char) :=
  match fuel with
  | 0 => .error .malformed
  | fuel + 1 =>
    match skipSpace s with
    | [] => .error .cutShort
    | '"' :: r => do
      let (key, rest) ← readQuoted .plain [] r
      match skipSpace rest with
      | [] => .error .cutShort
      | ':' :: rest =>
        let (v, rest) ← readValue fuel depth rest
        match skipSpace rest with
        | [] => .error .cutShort
        | '}' :: rest => return ([(String.ofList key, v)], rest)
        | ',' :: rest =>
          let (es, rest) ← readEntries fuel depth rest
          return ((String.ofList key, v) :: es, rest)
        | _ => .error .malformed
      | _ => .error .malformed
    | _ => .error .malformed
termination_by structural fuel
end

-- Keys that come again are settled, at every level.
mutual
def settled : Json → Json
  | .arr items => .arr (settledItems items)
  | .obj entries => .obj (Entries.ofList (settledEntries entries))
  | v => v
termination_by structural v => v

def settledItems : List Json → List Json
  | [] => []
  | v :: vs => settled v :: settledItems vs
termination_by structural vs => vs

def settledEntries : List (String × Json) → List (String × Json)
  | [] => []
  | (k, v) :: es => (k, settled v) :: settledEntries es
termination_by structural es => es
end

def depthLimit : Nat := 127

def fuelFor (s : List Char) : Nat := 2 * s.length + 2

-- The whole text is one value, with nothing but space around it.
def readChars (s : List Char) : Except ReadError Json := do
  let (v, rest) ← readValue (fuelFor s) depthLimit s
  if (skipSpace rest).isEmpty then return settled v else .error .malformed

def read (text : String) : Except ReadError Json := readChars text.toList

def read? (text : String) : Option Json := (read text).toOption

end Spiderworks.Json
