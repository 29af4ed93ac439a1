import LifeRom.Text.Hidden

/-! # Quoted characters and strings -/

namespace LifeRom.Text

/-- The spelling of a character by its code point, in hexadecimal digits without leading zeros. -/
def codePoint (c : Char) : List Char :=
  ['\\', 'u', '{'] ++ Nat.toDigits 16 c.toNat ++ ['}']

def spell (mark c : Char) : List Char :=
  if c = mark then ['\\', mark] else
  match c with
  | '\\' => ['\\', '\\']
  | '\x00' => ['\\', '0']
  | '\t' => ['\\', 't']
  | '\r' => ['\\', 'r']
  | '\n' => ['\\', 'n']
  | _ => if isHidden c then codePoint c else [c]

def quoteChar (c : Char) : String :=
  String.ofList ('\'' :: spell '\'' c ++ ['\''])

def quoteString (s : String) : String :=
  String.ofList ('"' :: s.toList.flatMap (spell '"') ++ ['"'])

end LifeRom.Text
