import Spiderworks.Css.Selector

namespace Spiderworks.Css

def skipBlank (ts : List Token) : List Token :=
  ts.dropWhile fun t => match t with
    | .blank => true
    | _ => false

-- ### Positions

def isWord (word : String) (s : String) : Bool := Text.asciiLowerString s == word

-- `n-5` as the part of a unit or an identifier: the number after the `n`.
def dashDigits? (s : String) : Option Int :=
  match s.toList with
  | n :: '-' :: ds =>
    if (n = 'n' ∨ n = 'N') ∧ !ds.isEmpty ∧ ds.all Text.isDigit then
      some (clamp (-(Text.digitsValue ds : Int)))
    else none
  | _ => none

def unsignedOffset? (sign : Int) (ts : List Token) : Option (Int × List Token) :=
  match skipBlank ts with
  | .number false (some b) :: rest => some (sign * b, rest)
  | _ => none

-- What may follow the `n`.
def offset? (ts : List Token) : Option (Int × List Token) :=
  match skipBlank ts with
  | .delim '+' :: rest => unsignedOffset? 1 rest
  | .delim '-' :: rest => unsignedOffset? (-1) rest
  | .number true (some b) :: rest => some (b, rest)
  | _ => some (0, ts)

def afterN? (step : Int) (word : String) (ts : List Token) : Option (Int × Int × List Token) :=
  if isWord "n" word then (offset? ts).map fun (b, rest) => (step, b, rest)
  else if isWord "n-" word then (unsignedOffset? (-1) ts).map fun (b, rest) => (step, b, rest)
  else (dashDigits? word).map fun b => (step, b, ts)

-- `2n+1`, `-n+3`, `odd`, `4`: the step and the offset.
def stepOffset? (ts : List Token) : Option (Int × Int × List Token) :=
  match skipBlank ts with
  | .number _ (some b) :: rest => some (0, b, rest)
  | .dimension (some a) unit :: rest => afterN? a unit rest
  | .ident word :: rest =>
    if isWord "even" word then some (2, 0, rest)
    else if isWord "odd" word then some (2, 1, rest)
    else match word.toList with
      | '-' :: cs => afterN? (-1) (String.ofList cs) rest
      | _ => afterN? 1 word rest
  | .delim '+' :: .ident word :: rest => afterN? 1 word rest
  | _ => none

def position? (fromEnd ofType : Bool) (inner : List Token) : Option Simple :=
  match stepOffset? inner with
  | some (step, offset, rest) =>
    if (skipBlank rest).isEmpty then some (.position ⟨fromEnd, ofType, step, offset⟩) else none
  | none => none

def first (fromEnd ofType : Bool) : Simple := .position ⟨fromEnd, ofType, 0, 1⟩

-- ### Attributes

def comparison? : Token → Option Comparison
  | .delim '=' => some .equal
  | .match '~' => some .word
  | .match '|' => some .dash
  | .match '^' => some .start
  | .match '$' => some .finish
  | .match '*' => some .part
  | _ => none

def letterCase? (ts : List Token) : Option LetterCase :=
  match skipBlank ts with
  | [] => some .asNamed
  | .ident word :: rest =>
    if !(skipBlank rest).isEmpty then none
    else if isWord "i" word then some .ignored
    else if isWord "s" word then some .exact
    else none
  | _ => none

def attributeValue? (anySpace : Bool) (name : String) (ts : List Token) : Option Simple :=
  match skipBlank ts with
  | [] => some (.attribute ⟨anySpace, name, none⟩)
  | op :: rest =>
    match comparison? op, skipBlank rest with
    | some op, .ident value :: rest | some op, .text value :: rest =>
      (letterCase? rest).map fun c => .attribute ⟨anySpace, name, some (op, value, c)⟩
    | _, _ => none

-- A vocabulary has no name here, so only the one without a name and any of them can be meant.
def attribute? (inner : List Token) : Option Simple :=
  match skipBlank inner with
  | .ident _ :: .delim '|' :: _ => none
  | .ident name :: rest => attributeValue? false name rest
  | .delim '*' :: .delim '|' :: .ident name :: rest => attributeValue? true name rest
  | .delim '|' :: .ident name :: rest => attributeValue? false name rest
  | _ => none

-- ### Compounds

-- The type at the start of a compound, if there is one.
def type? (ts : List Token) : Option (List Simple × List Token) :=
  match ts with
  | .ident _ :: .delim '|' :: _ => none
  | .ident name :: rest => some ([.type name], rest)
  | .delim '*' :: .delim '|' :: .delim '*' :: rest => some ([.any], rest)
  | .delim '*' :: .delim '|' :: .ident name :: rest => some ([.type name], rest)
  | .delim '*' :: .delim '|' :: _ => none
  | .delim '*' :: rest => some ([.any], rest)
  | .delim '|' :: .delim '*' :: rest => some ([.nowhere, .any], rest)
  | .delim '|' :: .ident name :: rest => some ([.nowhere, .type name], rest)
  | .delim '|' :: _ => none
  | _ => some ([], ts)

def pseudoClass? (name : String) : Option (List Simple) :=
  match Text.asciiLowerString name with
  | "first-child" => some [first false false]
  | "last-child" => some [first true false]
  | "only-child" => some [first false false, first true false]
  | "first-of-type" => some [first false true]
  | "last-of-type" => some [first true true]
  | "only-of-type" => some [first false true, first true true]
  | "root" => some [.root]
  | "empty" => some [.empty]
  | "scope" => some [.scope]
  | _ => none

def counted? (name : String) (inner : List Token) : Option Simple :=
  match Text.asciiLowerString name with
  | "nth-child" => position? false false inner
  | "nth-last-child" => position? true false inner
  | "nth-of-type" => position? false true inner
  | "nth-last-of-type" => position? true true inner
  | _ => none

-- The combinator before the next compound. None where no compound can follow.
def combinator? (ts : List Token) : Option (Combinator × List Token) :=
  match skipBlank ts with
  | .delim '>' :: rest => some (.child, rest)
  | .delim '+' :: rest => some (.nextSibling, rest)
  | .delim '~' :: rest => some (.laterSibling, rest)
  | [] => none
  | rest => if rest.length < ts.length then some (.descendant, rest) else none

def commaSplit (ts : List Token) : List (List Token) :=
  ts.foldr
    (fun t parts => match t, parts with
      | .comma, _ => [] :: parts
      | _, p :: rest => (t :: p) :: rest
      | _, [] => [[t]])
    [[]]

-- No selector has more nested parts than tokens, so the number of tokens is fuel enough. The
-- blanks before a part have been skipped.
mutual
-- The parts of a compound after its type.
def parts? : Nat → List Token → Option (List Simple × List Token)
  | 0, ts => some ([], ts)
  | fuel + 1, ts =>
    let go (s : List Simple) (rest : List Token) : Option (List Simple × List Token) :=
      (parts? fuel rest).map fun (more, rest) => (s ++ more, rest)
    match ts with
    | .hash name :: rest => go [.id name] rest
    | .delim '.' :: .ident name :: rest => go [.class name] rest
    | .delim '.' :: _ => none
    | .block .square inner :: rest => (attribute? inner).bind fun s => go [s] rest
    | .colon :: .ident name :: rest => (pseudoClass? name).bind fun s => go s rest
    | .colon :: .function name inner :: rest =>
      if isWord "not" name then
        (alternatives? fuel (commaSplit inner)).bind fun list => go [.not list] rest
      else (counted? name inner).bind fun s => go [s] rest
    | .colon :: _ => none
    | _ => some ([], ts)

def compound? (fuel : Nat) (ts : List Token) : Option (List Simple × List Token) :=
  match fuel with
  | 0 => none
  | fuel + 1 =>
    match type? (skipBlank ts) with
    | none => none
    | some (type, rest) =>
      match parts? fuel rest with
      | some (parts, rest) => if (type ++ parts).isEmpty then none else some (type ++ parts, rest)
      | none => none

-- The rest of a chain whose first part has been read.
def chain? (fuel : Nat) (left : Chain) (ts : List Token) : Option Chain :=
  match fuel with
  | 0 => none
  | fuel + 1 =>
    match combinator? ts with
    | none => if (skipBlank ts).isEmpty then some left else none
    | some (c, rest) =>
      match compound? fuel rest with
      | some (compound, rest) => chain? fuel (.joined left c compound) rest
      | none => none

def alternatives? (fuel : Nat) (parts : List (List Token)) : Option (List Chain) :=
  match fuel, parts with
  | _, [] => some []
  | 0, _ => none
  | fuel + 1, p :: rest =>
    match compound? fuel p with
    | none => none
    | some (compound, after) =>
      match chain? fuel (.one compound) after, alternatives? fuel rest with
      | some chain, some chains => some (chain :: chains)
      | _, _ => none
end

def Selector.read? (s : String) : Option Selector :=
  alternatives? (8 * (s.length + 1)) (commaSplit (tokens s))

end Spiderworks.Css
