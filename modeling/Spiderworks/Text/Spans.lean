import Spiderworks.Text.Digits

namespace Spiderworks.Text

structure Span where
  first : Nat
  last : Nat

def Span.holds (s : Span) (n : Nat) : Bool := s.first ≤ n && n ≤ s.last

def hexNumber (s : List Char) : Nat := s.foldl (fun n c => n * 16 + (hexValue? c).getD 0) 0

-- The entries of a table, which blanks part.
def words (lines : List String) : List (List Char) :=
  lines.flatMap fun line => line.toList.splitOn ' '

-- Two numbers with a dash or a tilde between them, or a single number.
def spanOf (s : List Char) : Span :=
  match s.splitOnP fun c => c == '-' || c == '~' with
  | [a, b] => ⟨hexNumber a, hexNumber b⟩
  | _ => ⟨hexNumber s, hexNumber s⟩

def spans (lines : List String) : Array Span := ((words lines).map spanOf).toArray

def isIn (table : Array Span) (c : Char) : Bool := table.any (·.holds c.toNat)

end Spiderworks.Text
