/-! # The field

A cell is named by its column `x` and its row `y`, counted from the upper left corner.
-/

namespace LifeRom

/-- Cells along each edge of the field. -/
def side : Nat := 50

/-- Bits of a signal that carries one coordinate. -/
def coordBits : Nat := 6

def coordRange : Nat := 1 <<< coordBits

theorem side_le_coordRange : side ≤ coordRange := by decide

inductive Axis | x | y
  deriving DecidableEq, Repr

namespace Axis

def name : Axis → String
  | x => "x"
  | y => "y"

def ofName? : List Char → Option Axis
  | ['x'] => some x
  | ['y'] => some y
  | _ => none

end Axis

structure Cell where
  x : Nat
  y : Nat
  deriving DecidableEq, Repr

namespace Cell

def InField (c : Cell) : Prop := c.x < side ∧ c.y < side

instance (c : Cell) : Decidable c.InField :=
  inferInstanceAs (Decidable (_ ∧ _))

/-- The order of columns from left to right, and of the cells of a column from top to bottom. -/
def Before (c d : Cell) : Prop := c.x < d.x ∨ c.x = d.x ∧ c.y < d.y

end Cell

def fieldCells : List Cell :=
  (List.range side).flatMap fun x => (List.range side).map fun y => ⟨x, y⟩

@[simp] theorem mem_fieldCells {c : Cell} : c ∈ fieldCells ↔ c.InField := by
  simp only [fieldCells, List.mem_flatMap, List.mem_range, List.mem_map, Cell.InField]
  constructor
  · rintro ⟨x, hx, y, hy, rfl⟩; exact ⟨hx, hy⟩
  · rintro ⟨hx, hy⟩; exact ⟨c.x, hx, c.y, hy, rfl⟩

end LifeRom
