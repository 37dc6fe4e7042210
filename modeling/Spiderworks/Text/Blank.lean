namespace Spiderworks.Text

-- The property White_Space of Unicode 15. NEL, the no-break space and the wide blanks belong to
-- it; the zero-width characters do not.
def isBlank (c : Char) : Bool :=
  let n := c.toNat
  (0x09 ≤ n && n ≤ 0x0d) || n == 0x20 || n == 0x85 || n == 0xa0 || n == 0x1680 ||
    (0x2000 ≤ n && n ≤ 0x200a) || n == 0x2028 || n == 0x2029 || n == 0x202f || n == 0x205f ||
    n == 0x3000

def trimStart (s : List Char) : List Char := s.dropWhile isBlank

def trimEnd (s : List Char) : List Char := (s.reverse.dropWhile isBlank).reverse

def trim (s : List Char) : List Char := trimEnd (trimStart s)

def trimString (s : String) : String := String.ofList (trim s.toList)

-- A text is blank when trimming leaves nothing of it.
def isBlankText (s : List Char) : Bool := s.all isBlank

theorem trimStart_eq_nil_iff (s : List Char) : trimStart s = [] ↔ isBlankText s = true := by
  induction s with
  | nil => simp [trimStart, isBlankText]
  | cons c s ih =>
    simp only [trimStart, isBlankText, List.dropWhile_cons, List.all_cons] at ih ⊢
    cases h : isBlank c <;> simp_all

-- ASCII letters only: no other letter has its case changed.
def asciiLower (c : Char) : Char := if 'A' ≤ c ∧ c ≤ 'Z' then Char.ofNat (c.toNat + 32) else c

def asciiLowerString (s : String) : String := String.ofList (s.toList.map asciiLower)

end Spiderworks.Text
