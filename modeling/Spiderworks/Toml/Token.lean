import Spiderworks.Decimal.Reader
import Spiderworks.Text.Digits
import Spiderworks.Time.Calendar
import Spiderworks.Toml.Basic

namespace Spiderworks.Toml

open Spiderworks.Text (isDigit digitsValue hexValue?)

-- ### Blanks

def isBlank (c : Char) : Bool := c == ' ' || c == '\t'

def skipBlanks (s : List Char) : List Char := s.dropWhile isBlank

-- The end of a line, or of the text.
def newline? : List Char → Option (List Char)
  | '\n' :: s => some s
  | '\r' :: '\n' :: s => some s
  | _ => none

-- What may stand in a comment or in a string as it is: no control character but the tab.
def isPlain (c : Char) : Bool := c == '\t' || (0x20 ≤ c.toNat && c.toNat != 0x7f)

def skipComment : List Char → List Char
  | '#' :: s => s.dropWhile isPlain
  | s => s

def lineEnd? (s : List Char) : Option (List Char) :=
  match skipComment (skipBlanks s) with
  | [] => some []
  | s => newline? s

-- Blanks, comments and line ends.
def skipLines (fuel : Nat) (s : List Char) : List Char :=
  match fuel with
  | 0 => s
  | fuel + 1 =>
    let s := skipComment (skipBlanks s)
    match newline? s with
    | some s => skipLines fuel s
    | none => s

-- Blanks and line ends.
def skipSpace (fuel : Nat) (s : List Char) : List Char :=
  match fuel with
  | 0 => s
  | fuel + 1 =>
    match newline? (skipBlanks s) with
    | some s => skipSpace fuel s
    | none => skipBlanks s

-- ### Strings

def escaped? : Char → Option Char
  | 'b' => some '\x08'
  | 't' => some '\t'
  | 'n' => some '\n'
  | 'f' => some '\x0c'
  | 'r' => some '\r'
  | '"' => some '"'
  | '\\' => some '\\'
  | _ => none

-- A character by its number in hexadecimal digits.
def numbered? (digits : Nat) (s : List Char) : Option (Char × List Char) := do
  let ds ← (s.take digits).mapM hexValue?
  let n := ds.foldl (fun acc d => acc * 16 + d) 0
  if ds.length = digits ∧ n.isValidChar then return (Char.ofNat n, s.drop digits) else none

-- What follows a backslash.
def escape? : List Char → Option (Char × List Char)
  | 'u' :: s => numbered? 4 s
  | 'U' :: s => numbered? 8 s
  | c :: s => (escaped? c).map fun d => (d, s)
  | [] => none

-- The rest of a string between quotes on one line. `acc` is the text so far, last character first.
def readBasic (fuel : Nat) (acc : List Char) (s : List Char) : Option (List Char × List Char) :=
  match fuel, s with
  | 0, _ | _, [] => none
  | fuel + 1, c :: s =>
    if c = '"' then some (acc.reverse, s)
    else if c = '\\' then (escape? s).bind fun (d, s) => readBasic fuel (d :: acc) s
    else if isPlain c then readBasic fuel (c :: acc) s
    else none

def readLiteral (acc : List Char) : List Char → Option (List Char × List Char)
  | [] => none
  | c :: s =>
    if c = '\'' then some (acc.reverse, s)
    else if isPlain c then readLiteral (c :: acc) s
    else none

-- How many of these quotes the text begins with.
def countQuotes (q : Char) (s : List Char) : Nat := (s.takeWhile (· == q)).length

-- The rest of a string of several lines. Up to two quotes may stand right before the three that
-- close it. A backslash at the end of a line takes the line end and all blanks after it away.
def readLong (q : Char) (fuel : Nat) (acc : List Char) (s : List Char) :
    Option (List Char × List Char) :=
  match fuel with
  | 0 => none
  | fuel + 1 =>
    match s with
    | [] => none
    | c :: rest =>
      if c = q then
        let n := countQuotes q s
        if n < 3 then readLong q fuel (q :: acc) rest
        else if n ≤ 5 then some ((List.replicate (n - 3) q ++ acc).reverse, s.drop n)
        else none
      else if c = '\\' && q = '"' then
        match newline? (skipBlanks rest) with
        | some s => readLong q fuel acc (skipSpace s.length s)
        | none => (escape? rest).bind fun (d, s) => readLong q fuel (d :: acc) s
      else
        match newline? s with
        | some s => readLong q fuel ('\n' :: acc) s
        | none => if isPlain c then readLong q fuel (c :: acc) rest else none

def dropNewline (s : List Char) : List Char := (newline? s).getD s

def readString : List Char → Option (List Char × List Char)
  | '"' :: '"' :: '"' :: s => readLong '"' (s.length + 1) [] (dropNewline s)
  | '\'' :: '\'' :: '\'' :: s => readLong '\'' (s.length + 1) [] (dropNewline s)
  | '"' :: s => readBasic (s.length + 1) [] s
  | '\'' :: s => readLiteral [] s
  | _ => none

-- ### Keys

def isBare (c : Char) : Bool :=
  isDigit c || ('a' ≤ c && c ≤ 'z') || ('A' ≤ c && c ≤ 'Z') || c == '_' || c == '-'

def readSimpleKey : List Char → Option (List Char × List Char)
  | '"' :: s => readBasic (s.length + 1) [] s
  | '\'' :: s => readLiteral [] s
  | s =>
    let name := s.takeWhile isBare
    if name.isEmpty then none else some (name, s.dropWhile isBare)

-- A key has at most so many parts, and values are nested at most so deep.
def depthLimit : Nat := 80

-- A key with its parts in order, and the blanks after it.
def readKey (fuel : Nat) (s : List Char) : Option (List String × List Char) :=
  match fuel with
  | 0 => none
  | fuel + 1 => do
    let (name, s) ← readSimpleKey (skipBlanks s)
    match skipBlanks s with
    | '.' :: s =>
      let (rest, s) ← readKey fuel s
      return (String.ofList name :: rest, s)
    | s => return ([String.ofList name], s)

-- ### Numbers

-- Further digits, each with a single underscore before it or none.
def moreDigits (isGood : Char → Bool) : List Char → Option (List Char × List Char)
  | '_' :: c :: s =>
    if isGood c then (moreDigits isGood s).map fun (ds, s) => (c :: ds, s) else none
  | c :: s =>
    if isGood c then (moreDigits isGood s).map fun (ds, s) => (c :: ds, s)
    else some ([], c :: s)
  | [] => some ([], [])

-- Digits with single underscores between them.
def readDigits (isGood : Char → Bool) : List Char → Option (List Char × List Char)
  | c :: s => if isGood c then (moreDigits isGood s).map fun (ds, s) => (c :: ds, s) else none
  | [] => none

def signOf : List Char → Bool × List Char
  | '-' :: s => (true, s)
  | '+' :: s => (false, s)
  | s => (false, s)

-- No zero stands in front of other digits.
def readWhole : List Char → Option (List Char × List Char)
  | '0' :: s => some (['0'], s)
  | s => readDigits isDigit s

def fitsInteger (n : Int) : Bool := decide (-Int.pow 2 63 ≤ n) && decide (n < Int.pow 2 63)

def integer? (n : Int) (s : List Char) : Option (Toml × List Char) :=
  if fitsInteger n then some (.integer n, s) else none

def readRadix (radix : Nat) (s : List Char) : Option (Toml × List Char) := do
  let isGood (c : Char) : Bool := ((hexValue? c).map fun d => decide (d < radix)).getD false
  let (ds, s) ← readDigits isGood s
  integer? (ds.foldl (fun acc c => acc * radix + (hexValue? c).getD 0) 0) s

def readInteger : List Char → Option (Toml × List Char)
  | '0' :: 'x' :: s => readRadix 16 s
  | '0' :: 'o' :: s => readRadix 8 s
  | '0' :: 'b' :: s => readRadix 2 s
  | s => do
    let (negative, s) := signOf s
    let (ds, s) ← readWhole s
    integer? (if negative then -(digitsValue ds : Int) else digitsValue ds) s

def readExponent : List Char → Option (List Char × List Char)
  | c :: s =>
    if c = 'e' ∨ c = 'E' then
      let (negative, r) := signOf s
      (readDigits isDigit r).map fun (ds, s) => ('e' :: (if negative then '-' :: ds else ds), s)
    else some ([], c :: s)
  | [] => some ([], [])

-- A number with a fraction or an exponent. One beyond the largest double is refused.
def readFloat (s : List Char) : Option (Toml × List Char) := do
  let (negative, s) := signOf s
  match s with
  | 'i' :: 'n' :: 'f' :: s => return (.float, s)
  | 'n' :: 'a' :: 'n' :: s => return (.float, s)
  | s =>
    let (whole, s) ← readWhole s
    let (fraction, s) ← match s with
      | '.' :: s => (readDigits isDigit s).map fun (ds, s) => ('.' :: ds, s)
      | s => some ([], s)
    let (exponent, s) ← readExponent s
    if fraction.isEmpty && exponent.isEmpty then none
    else
      let value ← Decimal.magnitude? (whole ++ fraction ++ exponent)
      if value == 1.0 / 0.0 && !negative then none else return (.float, s)

-- ### Moments

-- Exactly so many digits.
def fixed? (digits : Nat) (s : List Char) : Option (Nat × List Char) :=
  let ds := s.take digits
  if ds.length = digits ∧ ds.all isDigit then some (digitsValue ds, s.drop digits) else none

def char? (c : Char) : List Char → Option (List Char)
  | d :: s => if d = c then some s else none
  | [] => none

def readDate (s : List Char) : Option (List Char) := do
  let (year, s) ← fixed? 4 s
  let (month, s) ← fixed? 2 (← char? '-' s)
  let (day, s) ← fixed? 2 (← char? '-' s)
  if (⟨year, month, day⟩ : Time.Date).isValid then return s else none

def readClock (s : List Char) : Option (List Char) := do
  let (hour, s) ← fixed? 2 s
  let (minute, s) ← fixed? 2 (← char? ':' s)
  let (second, s) ← fixed? 2 (← char? ':' s)
  if hour ≤ 23 ∧ minute ≤ 59 ∧ second ≤ 60 then
    match s with
    | '.' :: r =>
      if (r.takeWhile isDigit).isEmpty then none else return r.dropWhile isDigit
    | s => return s
  else none

def readOffset : List Char → Option (List Char)
  | 'Z' :: s | 'z' :: s => some s
  | c :: s =>
    if c = '+' ∨ c = '-' then do
      let (hour, s) ← fixed? 2 s
      let (minute, s) ← fixed? 2 (← char? ':' s)
      if hour ≤ 23 ∧ minute ≤ 59 then return s else none
    else some (c :: s)
  | [] => some []

-- A date, a time of day, or both with an optional offset.
def readMoment (s : List Char) : Option (Toml × List Char) :=
  match readDate s with
  | some (c :: rest) =>
    if c = 'T' ∨ c = 't' ∨ c = ' ' then
      match readClock rest with
      | some s => (readOffset s).map fun s => (.moment, s)
      | none => some (.moment, c :: rest)
    else some (.moment, c :: rest)
  | some [] => some (.moment, [])
  | none => (readClock s).map fun s => (.moment, s)

def readNumber (s : List Char) : Option (Toml × List Char) :=
  (readMoment s).or ((readFloat s).or (readInteger s))

end Spiderworks.Toml
