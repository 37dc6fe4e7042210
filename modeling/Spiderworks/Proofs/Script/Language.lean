import Mathlib.Data.List.Basic
import Spiderworks.Script.Sections

namespace Spiderworks.Script

-- ### Physical lines

-- `line` holds the characters of the line so far, last one first.
def physicalLinesAfter (line : List Char) : List Char → List (List Char)
  | [] => if line.isEmpty then [] else [line.reverse]
  | '\r' :: '\n' :: rest => line.reverse :: physicalLinesAfter [] rest
  | c :: rest =>
    if c = '\n' ∨ c = '\r' then line.reverse :: physicalLinesAfter [] rest
    else physicalLinesAfter (c :: line) rest

def physicalLines (s : List Char) : List (List Char) := physicalLinesAfter [] s

example : physicalLines "a\rb\r\n\nc".toList = [['a'], ['b'], [], ['c']] := by decide

def EndsNoLine (s : List Char) : Prop := ∀ c ∈ s, c ≠ '\n' ∧ c ≠ '\r'

instance (s : List Char) : Decidable (EndsNoLine s) := List.decidableBAll _ s

variable {s t : List Char} {c : Char}

theorem EndsNoLine.nil : EndsNoLine [] := List.forall_mem_nil _

theorem EndsNoLine.append (hs : EndsNoLine s) (ht : EndsNoLine t) : EndsNoLine (s ++ t) :=
  List.forall_mem_append.mpr ⟨hs, ht⟩

theorem physicalLinesAfter_cons (hc : c ≠ '\n' ∧ c ≠ '\r') (line t : List Char) :
    physicalLinesAfter line (c :: t) = physicalLinesAfter (c :: line) t := by
  rw [physicalLinesAfter.eq_3 line c t fun r hr => absurd hr hc.2]
  exact if_neg (by simp [hc])

theorem physicalLinesAfter_line (h : EndsNoLine s) (line t : List Char) :
    physicalLinesAfter line (s ++ '\n' :: t) = (line.reverse ++ s) :: physicalLines t := by
  induction s generalizing line with
  | nil =>
      rw [List.append_nil]
      rfl
  | cons c s ih =>
      obtain ⟨hc, hs⟩ := List.forall_mem_cons.mp h
      rw [List.cons_append, physicalLinesAfter_cons hc, ih hs, List.reverse_cons,
        List.append_assoc, List.singleton_append]

theorem physicalLines_line (h : EndsNoLine s) (t : List Char) :
    physicalLines (s ++ '\n' :: t) = s :: physicalLines t := physicalLinesAfter_line h [] t

theorem physicalLines_unlines {lines : List String} (h : ∀ l ∈ lines, EndsNoLine l.toList)
    (t : List Char) :
    physicalLines (unlines lines ++ t) = lines.map String.toList ++ physicalLines t := by
  induction lines with
  | nil => rfl
  | cons l lines ih =>
      obtain ⟨hl, hlines⟩ := List.forall_mem_cons.mp h
      rw [unlines, List.flatMap_cons, ← unlines, List.append_assoc, List.append_assoc,
        List.singleton_append, physicalLines_line hl, ih hlines]
      rfl

-- ### Literals

-- What a letter behind a backslash stands for by itself.
def namedEscape? : Char → Option Nat
  | '\\' => some 92
  | '\x27' => some 39
  | '"' => some 34
  | 'a' => some 7
  | 'b' => some 8
  | 'f' => some 12
  | 'n' => some 10
  | 'r' => some 13
  | 't' => some 9
  | 'v' => some 11
  | _ => none

def isOctal (c : Char) : Bool := '0' ≤ c && c ≤ '7'

-- Where the reader stands: between two escapes, behind a backslash, in front of so many hexadecimal
-- digits, behind octal digits that so many more may follow, in front of the brace of a character's
-- name, or in the name, of which the last character is the first here.
inductive Place where
  | between
  | escape
  | hex (left value : Nat)
  | octal (left value : Nat)
  | brace
  | name (letters : List Char)

-- The code points that the inside of a literal stands for. They are numbers, as half a surrogate
-- pair may be written, and `names` knows the characters that have names. An escape that is cut
-- short is refused, and a backslash before any other character stands for itself.
def codePoints (names : List Char → Option Nat) : Place → List Char → Option (List Nat)
  | .between, [] => some []
  | .octal _ value, [] => some [value]
  | _, [] => none
  | .between, c :: rest =>
    if c = '\\' then codePoints names .escape rest
    else (codePoints names .between rest).map (c.toNat :: ·)
  | .escape, c :: rest =>
    match namedEscape? c with
    | some n => (codePoints names .between rest).map (n :: ·)
    | none =>
      if isOctal c then codePoints names (.octal 2 (Text.digitValue c)) rest
      else if c = 'x' then codePoints names (.hex 2 0) rest
      else if c = 'u' then codePoints names (.hex 4 0) rest
      else if c = 'U' then codePoints names (.hex 8 0) rest
      else if c = 'N' then codePoints names .brace rest
      else (codePoints names .between rest).map fun ns => 92 :: c.toNat :: ns
  | .hex left value, c :: rest =>
    match Text.hexValue? c with
    | none => none
    | some d =>
      if 1 < left then codePoints names (.hex (left - 1) (value * 16 + d)) rest
      else if value * 16 + d < 0x110000 then
        (codePoints names .between rest).map ((value * 16 + d) :: ·)
      else none
  | .octal left value, c :: rest =>
    if 0 < left ∧ isOctal c = true then
      codePoints names (.octal (left - 1) (value * 8 + Text.digitValue c)) rest
    else if c = '\\' then (codePoints names .escape rest).map (value :: ·)
    else (codePoints names .between rest).map fun ns => value :: c.toNat :: ns
  | .brace, c :: rest => if c = '{' then codePoints names (.name []) rest else none
  | .name letters, c :: rest =>
    if c = '}' then
      (names letters.reverse).bind fun n => (codePoints names .between rest).map (n :: ·)
    else codePoints names (.name (c :: letters)) rest

-- What stands in front of the closing quote, and what stands behind it. A quote behind a backslash
-- does not close.
def untilQuote : List Char → Option (List Char × List Char)
  | [] => none
  | '"' :: rest => some ([], rest)
  | '\\' :: c :: rest => (untilQuote rest).map fun r => ('\\' :: c :: r.1, r.2)
  | c :: rest => (untilQuote rest).map fun r => (c :: r.1, r.2)

-- The inside of a text that is one ordinary literal, with nothing behind its closing quote. Three
-- quotes open a literal of another kind.
def inside? : List Char → Option (List Char)
  | '"' :: '"' :: '"' :: _ => none
  | '"' :: rest =>
    match untilQuote rest with
    | some (inside, []) => some inside
    | _ => none
  | _ => none

-- The code points of a text on one physical line that is one ordinary literal. No source holds a
-- NUL.
def literalValue? (names : List Char → Option Nat) (s : List Char) : Option (List Nat) :=
  if '\x00' ∈ s then none else (inside? s).bind (codePoints names .between)

-- A hexadecimal escape, an octal one, and a backslash that starts none.
example : literalValue? (fun _ => none) "\"\\x41\\101\\q\"".toList = some [65, 65, 92, 113] := by
  decide

end Spiderworks.Script
