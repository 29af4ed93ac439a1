import LifeRom.Grid
import LifeRom.Verilog.Identifier
import LifeRom.Verilog.Module

/-! # Look-ups

A grid as a combinational module: a case statement over the coordinates.
-/

namespace LifeRom.Verilog

/-- A grid under the name of the module that answers for it. -/
structure Lookup where
  name : String
  grid : Grid
  isIdentifier_name : isIdentifier name = true
  deriving DecidableEq, Repr

namespace Lookup

def ofGrid (name : String) (grid : Grid) : Except Fault Lookup :=
  if h : isIdentifier name = true then .ok ⟨name, grid, h⟩ else .error (.illegalName name)

theorem ofGrid_eq_ok_iff {name : String} {grid : Grid} {l : Lookup} :
    ofGrid name grid = .ok l ↔ l.name = name ∧ l.grid = grid := by
  obtain ⟨name', grid', hname'⟩ := l
  unfold ofGrid
  split
  · simp [eq_comm]
  · next hname => exact ⟨nofun, fun ⟨h, _⟩ => absurd (h ▸ hname') hname⟩

def literal (n : Nat) : String :=
  toString coordBits ++ "'d" ++ toString n

def arm (c : Cell) : String :=
  "\x7b" ++ literal c.x ++ ", " ++ literal c.y ++ "\x7d: " ++ Signal.alive ++ " = 1;"

def defaultArm : String := "default: " ++ Signal.alive ++ " = 0;"

def lines (s : Settings) (l : Lookup) : List String :=
  declaration l.name (input coordBits Signal.x) [input coordBits Signal.y] ++
    [s.indentation 1 ++ "always_comb begin",
      s.indentation 2 ++ "case (\x7b" ++ Signal.x ++ ", " ++ Signal.y ++ "\x7d)"] ++
    l.grid.aliveCells.map (fun c => s.indentation 3 ++ arm c) ++
    [s.indentation 3 ++ defaultArm,
      s.indentation 2 ++ "endcase",
      s.indentation 1 ++ "end",
      "endmodule"]

def emit (s : Settings) (l : Lookup) : Module :=
  ⟨l.name, Text.unlines (s.guarded (l.lines s))⟩

end Lookup

end LifeRom.Verilog
