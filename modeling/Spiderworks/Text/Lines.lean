namespace Spiderworks.Text

-- `line` holds the characters of the line so far, last one first.
def dropReturn : List Char → List Char
  | '\r' :: line => line
  | line => line

-- A line ends at a line feed, and a carriage return right before that line feed belongs to the line
-- end. A last line without a line feed counts, and keeps its carriage return; an empty one does
-- not.
def linesAfter (line : List Char) : List Char → List (List Char)
  | [] => if line.isEmpty then [] else [line.reverse]
  | c :: rest =>
    if c = '\n' then (dropReturn line).reverse :: linesAfter [] rest
    else linesAfter (c :: line) rest

def lines (s : List Char) : List (List Char) := linesAfter [] s

-- A text that ends in a line feed has the lines of what precedes it, and nothing of the first
-- text leaks into the second.
theorem linesAfter_append_newline (line a b : List Char) :
    linesAfter line (a ++ '\n' :: b) = linesAfter line (a ++ ['\n']) ++ lines b := by
  induction a generalizing line with
  | nil => simp [linesAfter, lines]
  | cons c a ih => by_cases h : c = '\n' <;> simp [linesAfter, h, ih]

theorem lines_append_newline (a b : List Char) :
    lines (a ++ '\n' :: b) = lines (a ++ ['\n']) ++ lines b :=
  linesAfter_append_newline [] a b

end Spiderworks.Text
