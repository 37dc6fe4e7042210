import Spiderworks.Text.PrintingTable

namespace Spiderworks.Text

def hexDigits (n : Nat) : List Char := Nat.toDigits 16 n

def shownChar (c : Char) : List Char :=
  match c with
  | '\x00' => ['\\', '0']
  | '\t' => ['\\', 't']
  | '\n' => ['\\', 'n']
  | '\r' => ['\\', 'r']
  | '"' => ['\\', '"']
  | '\\' => ['\\', '\\']
  | c =>
    if isIn extending c || isIn unprintable c then
      ['\\', 'u', '{'] ++ hexDigits c.toNat ++ ['}']
    else [c]

def shown (s : String) : String := String.ofList ('"' :: s.toList.flatMap shownChar ++ ['"'])

end Spiderworks.Text
