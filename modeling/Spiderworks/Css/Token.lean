import Spiderworks.Text.Blank
import Spiderworks.Text.Digits

namespace Spiderworks.Css

inductive Bracket where
  | round
  | square
  | curly
  deriving DecidableEq, Repr

-- A number has its value as long as it has neither a point nor an exponent. `hash` is a `#` name
-- that could also be an identifier, `function` holds its arguments.
inductive Token where
  | blank
  | ident (name : String)
  | function (name : String) (inner : List Token)
  | hash (name : String)
  | otherHash
  | text (s : String)
  | badText
  | number (signed : Bool) (value : Option Int)
  | percentage
  | dimension (value : Option Int) (unit : String)
  | delim (c : Char)
  | match (op : Char)
  | colon
  | semicolon
  | comma
  | block (kind : Bracket) (inner : List Token)
  | close (kind : Bracket)
  | comment
  | marker

-- A token before brackets are paired.
inductive Lexeme where
  | plain (t : Token)
  | openFunction (name : String)
  | openBlock (kind : Bracket)
  | closeBlock (kind : Bracket)

def isBlank (c : Char) : Bool := c == ' ' || c == '\t' || c == '\n' || c == '\x0c' || c == '\r'

def isLineEnd (c : Char) : Bool := c == '\n' || c == '\x0c' || c == '\r'

def isNameStart (c : Char) : Bool :=
  ('a' ≤ c && c ≤ 'z') || ('A' ≤ c && c ≤ 'Z') || c == '_' || c == '\x00' || 0x80 ≤ c.toNat

def isNamePart (c : Char) : Bool := isNameStart c || Text.isDigit c || c == '-'

def isEscape : List Char → Bool
  | '\\' :: c :: _ => !isLineEnd c
  | ['\\'] => true
  | _ => false

def startsIdent : List Char → Bool
  | '-' :: c :: rest => c == '-' || isNameStart c || isEscape (c :: rest)
  | c :: rest => isNameStart c || isEscape (c :: rest)
  | [] => false

def replacement : Char := '\ufffd'

def visible (c : Char) : Char := if c = '\x00' then replacement else c

def codeChar (n : Nat) : Char :=
  if n = 0 ∨ 0x10ffff < n ∨ (0xd800 ≤ n ∧ n ≤ 0xdfff) then replacement else Char.ofNat n

-- The character that follows a backslash means, and how much of the text that takes up.
def escape (s : List Char) : Char × Nat :=
  let digits := (s.take 6).takeWhile fun c => (Text.hexValue? c).isSome
  match digits, s with
  | [], [] => (replacement, 0)
  | [], c :: _ => (visible c, 1)
  | _, _ =>
    let n := digits.foldl (fun n c => n * 16 + (Text.hexValue? c).getD 0) 0
    let blank := match s.drop digits.length with
      | '\r' :: '\n' :: _ => 2
      | c :: _ => if isBlank c then 1 else 0
      | [] => 0
    (codeChar n, digits.length + blank)

-- `skip` counts the characters of an escape whose meaning is in the name already.
def nameAfter : Nat → List Char → List Char × List Char
  | _, [] => ([], [])
  | skip + 1, _ :: s => nameAfter skip s
  | 0, c :: s =>
    if isNamePart c then
      let (name, rest) := nameAfter 0 s
      (visible c :: name, rest)
    else if isEscape (c :: s) then
      let (meaning, length) := escape s
      let (name, rest) := nameAfter length s
      (meaning :: name, rest)
    else ([], c :: s)

def name (s : List Char) : String × List Char :=
  let (cs, rest) := nameAfter 0 s
  (String.ofList cs, rest)

-- The text up to a quote. None where a line ends first.
def quotedAfter (quote : Char) : Nat → List Char → Option (List Char) × List Char
  | _, [] => (some [], [])
  | skip + 1, _ :: s => quotedAfter quote skip s
  | 0, c :: s =>
    if c = quote then (some [], s)
    else if isLineEnd c then (none, c :: s)
    else if c = '\\' then
      match s with
      | [] => (some [], [])
      | '\r' :: '\n' :: _ => quotedAfter quote 2 s
      | d :: _ =>
        if isLineEnd d then quotedAfter quote 1 s
        else
          let (meaning, length) := escape s
          let (text, rest) := quotedAfter quote length s
          (text.map (meaning :: ·), rest)
    else
      let (text, rest) := quotedAfter quote 0 s
      (text.map (visible c :: ·), rest)

def startsNumber : List Char → Bool
  | '.' :: d :: _ => Text.isDigit d
  | c :: _ => Text.isDigit c
  | [] => false

-- Whole numbers stay within 32 bits.
def clamp (n : Int) : Int := max (-2147483648) (min 2147483647 n)

def exponentLength : List Char → Nat
  | e :: rest =>
    if e = 'e' ∨ e = 'E' then
      match rest with
      | d :: more =>
        if Text.isDigit d then 1 + (rest.takeWhile Text.isDigit).length
        else if (d = '+' ∨ d = '-') ∧ (more.head?).any Text.isDigit then
          2 + (more.takeWhile Text.isDigit).length
        else 0
      | [] => 0
    else 0
  | [] => 0

def numeric (s : List Char) : Token × List Char :=
  let (signed, negative, s) := match s with
    | '+' :: r => (true, false, r)
    | '-' :: r => (true, true, r)
    | r => (false, false, r)
  let whole := s.takeWhile Text.isDigit
  let afterWhole := s.dropWhile Text.isDigit
  let (fraction, afterFraction) := match afterWhole with
    | '.' :: d :: r =>
      if Text.isDigit d then ((d :: r).takeWhile Text.isDigit, (d :: r).dropWhile Text.isDigit)
      else ([], afterWhole)
    | _ => ([], afterWhole)
  let length := exponentLength afterFraction
  let n : Int := Text.digitsValue whole
  let value := if fraction.isEmpty ∧ length = 0 then some (clamp (if negative then -n else n))
    else none
  match afterFraction.drop length with
  | '%' :: rest => (.percentage, rest)
  | rest =>
    if startsIdent rest then
      let (unit, rest) := name rest
      (.dimension value unit, rest)
    else (.number signed value, rest)

def skipComment : List Char → List Char
  | '*' :: '/' :: s => s
  | _ :: s => skipComment s
  | [] => []

def lexIdent (s : List Char) : Lexeme × List Char :=
  match name s with
  | (n, '(' :: rest) => (.openFunction n, rest)
  | (n, rest) => (.plain (.ident n), rest)

-- The first lexeme of a text that starts with `c`.
def lex (c : Char) (s : List Char) : Lexeme × List Char :=
  let delim : Lexeme × List Char := (.plain (.delim c), s)
  let matchOr : Lexeme × List Char := match s with
    | '=' :: rest => (.plain (.match c), rest)
    | _ => delim
  if isBlank c then (.plain .blank, s.dropWhile isBlank)
  else if Text.isDigit c then
    let (t, rest) := numeric (c :: s)
    (.plain t, rest)
  else if (c = '+' ∨ c = '-') ∧ startsNumber s then
    let (t, rest) := numeric (c :: s)
    (.plain t, rest)
  else match c, s with
    | '"', _ | '\'', _ =>
      match quotedAfter c 0 s with
      | (some text, rest) => (.plain (.text (String.ofList text)), rest)
      | (none, rest) => (.plain .badText, rest)
    | '#', _ =>
      if startsIdent s then
        let (n, rest) := name s
        (.plain (.hash n), rest)
      else if (s.head?).any isNamePart ∨ isEscape s then (.plain .otherHash, (name s).2)
      else delim
    | '(', _ => (.openBlock .round, s)
    | ')', _ => (.closeBlock .round, s)
    | '[', _ => (.openBlock .square, s)
    | ']', _ => (.closeBlock .square, s)
    | '{', _ => (.openBlock .curly, s)
    | '}', _ => (.closeBlock .curly, s)
    | ',', _ => (.plain .comma, s)
    | ':', _ => (.plain .colon, s)
    | ';', _ => (.plain .semicolon, s)
    | '~', _ | '|', _ | '^', _ | '$', _ | '*', _ => matchOr
    | '/', '*' :: rest => (.plain .comment, skipComment rest)
    | '-', '-' :: '>' :: rest => (.plain .marker, rest)
    | '<', '!' :: '-' :: '-' :: rest => (.plain .marker, rest)
    | '.', d :: _ =>
      if Text.isDigit d then
        let (t, rest) := numeric (c :: s)
        (.plain t, rest)
      else delim
    | _, _ => if startsIdent (c :: s) then lexIdent (c :: s) else delim

-- Each lexeme takes at least one character.
def lexemesOf : Nat → List Char → List Lexeme
  | 0, _ | _, [] => []
  | fuel + 1, c :: s =>
    let (l, rest) := lex c s
    l :: lexemesOf fuel rest

def lexemes (s : List Char) : List Lexeme := lexemesOf s.length s

-- A bracket that is open: what it was opened with, and the tokens before it and inside it, last
-- ones first.
structure Frame where
  opener : Option String
  kind : Bracket
  before : List Token

def Frame.close (f : Frame) (inner : List Token) : Token :=
  match f.opener with
  | some n => .function n inner.reverse
  | none => .block f.kind inner.reverse

def pair (frames : List Frame) (now : List Token) : List Lexeme → List Token
  | [] => (frames.foldl (fun inner f => f.close inner :: f.before) now).reverse
  | .plain .comment :: rest => pair frames now rest
  | .plain t :: rest => pair frames (t :: now) rest
  | .openFunction n :: rest => pair (⟨some n, .round, now⟩ :: frames) [] rest
  | .openBlock k :: rest => pair (⟨none, k, now⟩ :: frames) [] rest
  | .closeBlock k :: rest =>
    match frames with
    | f :: outer =>
      if f.kind = k then pair outer (f.close now :: f.before) rest
      else pair frames (.close k :: now) rest
    | [] => pair [] (.close k :: now) rest

def tokens (s : String) : List Token := pair [] [] (lexemes s.toList)

end Spiderworks.Css
