import Spiderworks.Text.Digits

namespace Spiderworks.Shell

-- ### Words

inductive Piece where
  | text (s : String)
  | value (name fallback : String)
  deriving DecidableEq, Repr

def Piece.text? : Piece → Option String
  | .text s => some s
  | .value _ _ => none

-- A word that is not quoted anywhere goes away when nothing is left of it.
structure Word where
  pieces : List Piece
  quoted : Bool
  deriving DecidableEq, Repr

namespace Word

def empty : Word := ⟨[], false⟩

def addText (w : Word) (s : List Char) : Word :=
  { w with pieces := w.pieces ++ [.text (String.ofList s)] }

def add (w : Word) (p : Piece) : Word := { w with pieces := w.pieces ++ [p] }

def quote (w : Word) : Word := { w with quoted := true }

-- The text of a word that is only text.
def plain? (w : Word) : Option String := (w.pieces.mapM Piece.text?).map String.join

end Word

def isNameChar (c : Char) : Bool := c.isAlphanum || c == '_'

def isSpecialName (c : Char) : Bool := "0123456789@*#?$".toList.contains c

-- A value between braces, with what stands in for it when there is none.
def readBraced (s : List Char) : Piece × List Char :=
  let inside := s.takeWhile (· != '\x7d')
  let rest := (s.dropWhile (· != '\x7d')).drop 1
  let name := inside.takeWhile fun c => isNameChar c || isSpecialName c
  let fallback := match inside.dropWhile fun c => isNameChar c || isSpecialName c with
    | ':' :: '-' :: f | '-' :: f => f
    | _ => []
  (.value (String.ofList name) (String.ofList fallback), rest)

-- After the dollar sign.
def readPiece (s : List Char) : Piece × List Char :=
  match s with
  | '\x7b' :: rest => readBraced rest
  | c :: rest =>
    if isSpecialName c then (.value (String.singleton c) "", rest)
    else
      let name := s.takeWhile isNameChar
      if name.isEmpty then (.text "$", s)
      else (.value (String.ofList name) "", s.dropWhile isNameChar)
  | [] => (.text "$", [])

def isBreak (c : Char) : Bool := " \t\n;&|<>()".toList.contains c

-- What keeps its meaning between double quotes.
def isEscapable (c : Char) : Bool := "$\x60\"\\".toList.contains c

-- The rest of a word. `double` tells whether a double quote is open.
def readWord (fuel : Nat) (double : Bool) (w : Word) (s : List Char) : Word × List Char :=
  match fuel, s with
  | 0, s => (w, s)
  | _ + 1, [] => (w, [])
  | fuel + 1, c :: rest =>
    if c = '"' then readWord fuel (!double) w.quote rest
    else if c = '$' then
      let (p, rest) := readPiece rest
      readWord fuel double (w.add p) rest
    else if c = '\\' then
      match rest with
      | '\n' :: rest => readWord fuel double w rest
      | d :: rest =>
        readWord fuel double (w.addText (if double && !isEscapable d then ['\\', d] else [d])) rest
      | [] => (w.addText ['\\'], [])
    else if double then readWord fuel double (w.addText [c]) rest
    else if c = '\'' then
      readWord fuel double (w.quote.addText (rest.takeWhile (· != '\'')))
        ((rest.dropWhile (· != '\'')).drop 1)
    else if isBreak c then (w, c :: rest)
    else readWord fuel double (w.addText [c]) rest

-- ### Tokens

-- How a command hangs on the one before it.
inductive Link where
  | always
  | ifDone
  | ifFailed
  deriving DecidableEq, Repr

-- Where a stream goes.
inductive Sink where
  | file (append : Bool)
  | stream (n : Nat)
  | input
  deriving DecidableEq, Repr

inductive Token where
  | word (w : Word)
  | redirect (stream : Nat) (sink : Sink)
  | link (l : Link)
  deriving DecidableEq, Repr

-- After the arrow of a redirection.
def readSink (stream : Nat) : List Char → Token × List Char
  | '>' :: s => (.redirect stream (.file true), s)
  | '&' :: '1' :: s => (.redirect stream (.stream 1), s)
  | '&' :: '2' :: s => (.redirect stream (.stream 2), s)
  | s => (.redirect stream (.file false), s)

def readToken (s : List Char) : Token × List Char :=
  match s with
  | '&' :: '&' :: s => (.link .ifDone, s)
  | '|' :: '|' :: s => (.link .ifFailed, s)
  | '1' :: '>' :: s => readSink 1 s
  | '2' :: '>' :: s => readSink 2 s
  | '>' :: s => readSink 1 s
  | '<' :: s => (.redirect 0 .input, s)
  | c :: rest =>
    if isBreak c then (.link .always, rest)
    else
      let (w, rest) := readWord (s.length + 1) false .empty s
      (.word w, rest)
  | [] => (.link .always, [])

def readTokens (fuel : Nat) (s : List Char) : List Token :=
  match fuel with
  | 0 => []
  | fuel + 1 =>
    match s.dropWhile fun c => c == ' ' || c == '\t' with
    | [] => []
    | '#' :: s => readTokens fuel (s.dropWhile (· != '\n'))
    | s =>
      let (t, rest) := readToken s
      t :: readTokens fuel rest

-- ### Steps

structure Command where
  words : List Word
  redirects : List (Nat × Sink × Word)
  deriving DecidableEq, Repr

-- A loop goes on as long as its test ends well, or as long as it fails.
inductive Step where
  | command (link : Link) (c : Command)
  | loop (link : Link) (whileDone : Bool) (test body : List Step)
  | branch (link : Link) (test yes no : List Step)

def readCommand (c : Command) : List Token → Command × List Token
  | .word w :: ts => readCommand { c with words := c.words ++ [w] } ts
  | .redirect n (.stream k) :: ts =>
    readCommand { c with redirects := c.redirects ++ [(n, .stream k, .empty)] } ts
  | .redirect n sink :: .word w :: ts =>
    readCommand { c with redirects := c.redirects ++ [(n, sink, w)] } ts
  | .redirect _ _ :: ts => readCommand c ts
  | ts => (c, ts)

def Link.next (pending new : Link) : Link := if new = .always then pending else new

-- The words that close a part of a loop or of a branch.
def closers : List String := ["do", "done", "then", "else", "fi"]

-- A word with nothing but text in it, and no quotes.
def nameOf : Token → String
  | .word w => if w.quoted then "" else w.plain?.getD ""
  | _ => ""

-- The steps up to a closing word, that word, and what follows it.
def readSteps (fuel : Nat) (pending : Link) (ts : List Token) : List Step × String × List Token :=
  match fuel, ts with
  | 0, ts => ([], "", ts)
  | _ + 1, [] => ([], "", [])
  | fuel + 1, .link l :: ts => readSteps fuel (pending.next l) ts
  | fuel + 1, t :: ts =>
    let name := nameOf t
    if closers.contains name then ([], name, ts)
    else if name == "while" || name == "until" then
      let (test, _, ts) := readSteps fuel .always ts
      let (body, _, ts) := readSteps fuel .always ts
      let (steps, closer, ts) := readSteps fuel .always ts
      (.loop pending (name == "while") test body :: steps, closer, ts)
    else if name == "if" then
      let (test, _, ts) := readSteps fuel .always ts
      let (yes, closer, ts) := readSteps fuel .always ts
      let (no, ts) := if closer == "else" then
          let (no, _, ts) := readSteps fuel .always ts
          (no, ts)
        else ([], ts)
      let (steps, closer, ts) := readSteps fuel .always ts
      (.branch pending test yes no :: steps, closer, ts)
    else
      let (c, ts) := readCommand ⟨[], []⟩ (t :: ts)
      let (steps, closer, ts) := readSteps fuel .always ts
      (.command pending c :: steps, closer, ts)

def read (text : String) : List Step :=
  let ts := readTokens (text.length + 1) text.toList
  (readSteps (ts.length + 1) .always ts).1

end Spiderworks.Shell
