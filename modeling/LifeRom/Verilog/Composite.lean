import LifeRom.Fault
import LifeRom.Verilog.Identifier
import LifeRom.Verilog.Module

/-! # Composites

Below the modules of a composite stands a selector, which passes on the output of the module whose
position it is given.
-/

namespace LifeRom.Verilog

namespace Selector

/-- The number of binary digits of `n`, and none for zero. -/
def bitLength (n : Nat) : Nat :=
  if n = 0 then 0 else n.log2 + 1

/-- Bits of an input that carries the positions below `count`; an input has at least one. -/
def indexWidth (count : Nat) : Nat :=
  max 1 (bitLength (count - 1))

/-- The line that places the module at position `index`. -/
def placement (index : Nat) (name : String) : String :=
  let connect (inner outer : String) := "." ++ inner ++ "(" ++ outer ++ ")"
  name ++ " " ++ name ++ "_" ++ toString index ++ "(" ++
    connect Signal.x Signal.x ++ ", " ++ connect Signal.y Signal.y ++ ", " ++
    connect Signal.alive (aliveArray ++ "[" ++ toString index ++ "]") ++ ");"

def lines (s : Settings) (names : List String) : List String :=
  declaration s.selectorName (input (indexWidth names.length) Signal.index)
      [input coordBits Signal.x, input coordBits Signal.y] ++
    [s.indentation 1 ++ "logic " ++ aliveArray ++ "[" ++ toString (names.length - 1) ++ ":0];",
      ""] ++
    names.zipIdx.map (fun (name, index) => s.indentation 1 ++ placement index name) ++
    ["",
      s.indentation 1 ++ "assign " ++ Signal.alive ++ " = " ++ aliveArray ++ "[" ++ Signal.index ++
        "];",
      "endmodule"]

end Selector

/-- Each module with an empty line below it, and the selector. A name clash counts before an empty
list. -/
def compose (s : Settings) (modules : List Module) : Except Fault String :=
  let names := modules.map (·.name)
  if isIdentifier s.selectorName = false ∨ s.selectorName ∈ names then
    .error (.illegalName s.selectorName)
  else if modules = [] then .error .noModules
  else .ok (Text.unlines (modules.map (·.text)) ++
    Text.unlines (s.guarded (Selector.lines s names)))

end LifeRom.Verilog
