import Spiderworks.XPath.Value

namespace Spiderworks.XPath

-- The node that an expression is evaluated at, its position among those it was chosen from, and
-- their number.
structure Focus where
  node : Nat
  position : Nat
  size : Nat

def natValue (n : Nat) : Value := .number (Decimal.ofWhole false n)

-- The argument, or the current node without one.
def argumentOrNode (f : Focus) : List Value → Eval Value
  | [] => .ok (.nodes [f.node])
  | [v] => .ok v
  | _ => .error .argumentCount

def one (args : List Value) (g : Value → Eval Value) : Eval Value :=
  match args with
  | [a] => g a
  | _ => .error .argumentCount

def two (args : List Value) (g : Value → Value → Eval Value) : Eval Value :=
  match args with
  | [a, b] => g a b
  | _ => .error .argumentCount

def textOr (o : Outline) (f : Focus) (args : List Value) (g : List Char → Value) : Eval Value := do
  return g ((← argumentOrNode f args).asText o).toList

def nameOf (o : Outline) (f : Focus) (args : List Value) : Eval Value := do
  match ← (← argumentOrNode f args).asNodes with
  | [] => return .text ""
  | n :: _ => return .text (o.name n)

-- What stands before the first occurrence of `part`, and what after it.
def splitAtFirst? (part : List Char) : List Char → Option (List Char × List Char)
  | [] => if part.isEmpty then some ([], []) else none
  | c :: s =>
    if part.isPrefixOf (c :: s) then some ([], (c :: s).drop part.length)
    else (splitAtFirst? part s).map fun (before, after) => (c :: before, after)

def texts (o : Outline) (args : List Value) (g : List Char → List Char → Value) : Eval Value :=
  two args fun a b => .ok (g (a.asText o).toList (b.asText o).toList)

-- The characters whose numbers, counted from 1, reach `start` and stay below `start + length`.
def substringFrom (start length : Float) : Nat → List Char → List Char
  | _, [] => []
  | n, c :: s =>
    let p := Decimal.ofWhole false n
    if start ≤ p && p < start + length then c :: substringFrom start length (n + 1) s
    else substringFrom start length (n + 1) s

def substring (o : Outline) (args : List Value) : Eval Value :=
  let cut (s : Value) (start length : Float) : Eval Value :=
    .ok (.text (String.ofList (substringFrom (round start) length 1 (s.asText o).toList)))
  match args with
  | [s, start] => cut s (start.asNumber o) (1.0 / 0.0)
  | [s, start, length] => cut s (start.asNumber o) (round (length.asNumber o))
  | _ => .error .argumentCount

-- Words parted by one blank each.
def normalizeSpace (s : List Char) : List Char :=
  let isSpace (c : Char) : Bool := c == ' ' || c == '\t' || c == '\n' || c == '\r'
  [' '].intercalate ((s.splitOnP isSpace).filter (!·.isEmpty))

-- The first occurrence of a character in `source` says what becomes of it.
def translateChar (source target : List Char) (c : Char) : List Char :=
  match source.idxOf? c with
  | none => [c]
  | some i => target[i]?.toList

def call (o : Outline) (f : Focus) (name : String) (args : List Value) : Eval Value :=
  match name with
  | "last" => if args.isEmpty then .ok (natValue f.size) else .error .argumentCount
  | "position" => if args.isEmpty then .ok (natValue f.position) else .error .argumentCount
  | "count" => one args fun a => do return natValue (← a.asNodes).length
  | "local-name" | "name" => nameOf o f args
  | "namespace-uri" => do
    let _ ← nameOf o f args
    return .text ""
  | "string" => textOr o f args fun s => .text (String.ofList s)
  | "concat" =>
    if args.length < 2 then .error .argumentCount
    else .ok (.text (String.join (args.map (·.asText o))))
  | "starts-with" => texts o args fun s part => .boolean (part.isPrefixOf s)
  | "contains" => texts o args fun s part => .boolean (splitAtFirst? part s).isSome
  | "substring-before" =>
    texts o args fun s part =>
      .text (String.ofList ((splitAtFirst? part s).elim [] (·.1)))
  | "substring-after" =>
    texts o args fun s part =>
      .text (String.ofList ((splitAtFirst? part s).elim [] (·.2)))
  | "substring" => substring o args
  | "string-length" => textOr o f args fun s => natValue s.length
  | "normalize-space" => textOr o f args fun s => .text (String.ofList (normalizeSpace s))
  | "translate" =>
    match args with
    | [s, source, target] =>
      let source := (source.asText o).toList
      let target := (target.asText o).toList
      .ok (.text (String.ofList ((s.asText o).toList.flatMap (translateChar source target))))
    | _ => .error .argumentCount
  | "boolean" => one args fun a => .ok (.boolean a.truth)
  | "not" => one args fun a => .ok (.boolean (!a.truth))
  | "true" => if args.isEmpty then .ok (.boolean true) else .error .argumentCount
  | "false" => if args.isEmpty then .ok (.boolean false) else .error .argumentCount
  | "number" => do return .number ((← argumentOrNode f args).asNumber o)
  | "sum" => one args fun a => do
    return .number ((← a.asNodes).foldl (fun sum n => sum + numberOf (o.string n)) 0.0)
  | "floor" => one args fun a => .ok (.number (floor (a.asNumber o)))
  | "ceiling" => one args fun a => .ok (.number (ceiling (a.asNumber o)))
  | "round" => one args fun a => .ok (.number (round (a.asNumber o)))
  | _ => .error (.unknownFunction name)

end Spiderworks.XPath
