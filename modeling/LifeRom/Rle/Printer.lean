import LifeRom.Pattern

/-! # Writing run-length documents -/

namespace LifeRom

namespace Token

def toRle : Token → String
  | .dead n => toString n ++ "b"
  | .alive n => toString n ++ "o"
  | .rowEnd => "$"
  | .stop => "!"

end Token

namespace Pattern

def rleHeader (p : Pattern) : String :=
  "x = " ++ toString p.width ++ ", y = " ++ toString p.height

def toRle (p : Pattern) : String :=
  p.rleHeader ++ "\n" ++ String.join (p.tokens.map Token.toRle)

end Pattern

end LifeRom
