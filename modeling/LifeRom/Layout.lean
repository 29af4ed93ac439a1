import LifeRom.Grid
import LifeRom.Margins
import LifeRom.Pattern

/-! # Layout

Tokens are drawn row by row. Alive cells and rows have to stay inside the field; dead cells may
leave it.
-/

namespace LifeRom

/-- A field drawn down to some row, and a cursor in that row. -/
structure Layout where
  closed : Array Row
  row : Row
  column : Nat

namespace Layout

def start (left top : Nat) : Layout where
  closed := Array.replicate top Row.blank
  row := Row.blank
  column := left

variable (arith : Counting) (left : Nat)

def closeRow (s : Layout) : Except Fault (Array Row) :=
  if s.closed.size = side then .error (.outsideField side 0) else .ok (s.closed.push s.row)

theorem closeRow_eq_ok {s : Layout} (h : s.closed.size ≠ side) :
    s.closeRow = .ok (s.closed.push s.row) := by
  simp [closeRow, h]

theorem closeRow_eq_error {s : Layout} (h : s.closed.size = side) :
    s.closeRow = .error (.outsideField side 0) := by
  simp [closeRow, h]

def step (s : Layout) : Token → Except Fault Layout
  | .dead n => .ok { s with column := arith.advance s.column n }
  | .alive n =>
    let last := arith.advance s.column n
    if side < last then .error (.outsideField s.closed.size side)
    else .ok { s with row := s.row.fill s.column last, column := last }
  | .rowEnd | .stop => do
    let closed ← s.closeRow
    return ⟨closed, Row.blank, left⟩

/-- The closed rows, with blank rows below them. -/
def grid (s : Layout) : Grid :=
  ⟨Vector.ofFn fun y => s.closed[y]?.getD Row.blank⟩

def run (s : Layout) : List Token → Except Fault Grid
  | [] => .error .unterminated
  | .stop :: _ => do
    let s ← s.step arith left .stop
    return s.grid
  | t :: ts => do
    let s ← s.step arith left t
    run s ts

end Layout

namespace Pattern

def margins (p : Pattern) : Margins := .centring p.width p.height

theorem left_margins_le (p : Pattern) : p.margins.left ≤ side :=
  Margins.left_centring_le _ _

theorem top_margins_le (p : Pattern) : p.margins.top ≤ side :=
  Margins.top_centring_le _ _

/-- Draws the pattern into the middle of the field, with columns counted by `arith`. -/
def layOutWith (arith : Counting) (p : Pattern) : Except Fault Grid :=
  (Layout.start p.margins.left p.margins.top).run arith p.margins.left p.tokens

def layOut (p : Pattern) : Except Fault Grid :=
  p.layOutWith .word

end Pattern

end LifeRom
