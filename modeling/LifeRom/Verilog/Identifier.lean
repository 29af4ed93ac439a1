import LifeRom.Verilog.Keyword

/-! # Identifiers -/

namespace LifeRom.Verilog

def isIdentifierStart (c : Char) : Bool := c.isAlpha || c == '_'

def isIdentifierPart (c : Char) : Bool := c.isAlphanum || c == '_'

def isIdentifier (name : String) : Bool :=
  match name.toList with
  | [] => false
  | c :: cs => isIdentifierStart c && cs.all isIdentifierPart && !isKeyword name

/-- The text with an underscore for each character that no identifier holds, named or lengthened
at the front where an identifier cannot start so. -/
def wordOf (stem : String) : String :=
  match stem.toList.map fun c => if c.isAlphanum then c else '_' with
  | [] => "pattern"
  | c :: cs => if c.isDigit then "p_" ++ String.ofList (c :: cs) else String.ofList (c :: cs)

def identifierOf (stem : String) : String :=
  let word := wordOf stem
  if isKeyword word then word ++ "_" else word

end LifeRom.Verilog
