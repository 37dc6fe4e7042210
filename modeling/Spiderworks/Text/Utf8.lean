namespace Spiderworks.Utf8

-- A character of which `left` bytes are missing; the next one is between `low` and `high`.
structure Begun where
  value : Nat
  left : Nat
  low : Nat
  high : Nat

def begun (value left : Nat) : Begun := ⟨value, left, 0x80, 0xbf⟩

-- The first byte of a character. Those that would only begin a longer form than is needed, a
-- surrogate or a number past the last character are left out.
def first (b : Nat) : Except Begun (Option Char) :=
  if b < 0x80 then .ok (some (Char.ofNat b))
  else if b < 0xc2 then .ok none
  else if b < 0xe0 then .error (begun (b - 0xc0) 1)
  else if b = 0xe0 then .error { begun 0 2 with low := 0xa0 }
  else if b = 0xed then .error { begun 0xd 2 with high := 0x9f }
  else if b < 0xf0 then .error (begun (b - 0xe0) 2)
  else if b = 0xf0 then .error { begun 0 3 with low := 0x90 }
  else if b < 0xf4 then .error (begun (b - 0xf0) 3)
  else if b = 0xf4 then .error { begun 4 3 with high := 0x8f }
  else .ok none

-- The pieces of a text, each as long as it could still be the beginning of a character; `none`
-- stands for one that is no character.
def pieces : Option Begun → List UInt8 → List (Option Char)
  | none, [] => []
  | some _, [] => [none]
  | state, b :: rest =>
    let b := b.toNat
    let afresh : List (Option Char) :=
      match first b with
      | .ok c => c :: pieces none rest
      | .error s => pieces (some s) rest
    match state with
    | none => afresh
    | some s =>
      if s.low ≤ b ∧ b ≤ s.high then
        let value := s.value * 64 + (b - 0x80)
        if s.left = 1 then some (Char.ofNat value) :: pieces none rest
        else pieces (some (begun value (s.left - 1))) rest
      else none :: afresh

def lenient (bytes : List UInt8) : String :=
  String.ofList ((pieces none bytes).map fun c => c.getD '\ufffd')

def decode? (bytes : List UInt8) : Option String :=
  ((pieces none bytes).mapM id).map String.ofList

def encode (s : String) : List UInt8 := s.toUTF8.toList

end Spiderworks.Utf8
