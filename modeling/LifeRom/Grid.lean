import LifeRom.Fault

/-! # Grids -/

namespace LifeRom

abbrev Row := Vector Bool side

namespace Row

def blank : Row := Vector.replicate side false

/-- The row with the cells from column `first` up to but not including `last` alive as well. -/
def fill (row : Row) (first last : Nat) : Row :=
  Vector.ofFn fun x => row[x] || (first ≤ x.val && x.val < last)

@[simp] theorem getElem_blank {x : Nat} (h : x < side) : blank[x] = false := by
  simp [blank]

@[simp] theorem getElem_fill (row : Row) (first last : Nat) {x : Nat} (h : x < side) :
    (row.fill first last)[x] = (row[x] || (first ≤ x && x < last)) := by
  simp [fill]

end Row

structure Grid where
  rows : Vector Row side
  deriving DecidableEq, Repr

namespace Grid

def blank : Grid := ⟨Vector.replicate side Row.blank⟩

def get (g : Grid) (c : Cell) (h : c.InField) : Bool :=
  have hx : c.x < side := h.1
  have hy : c.y < side := h.2
  g.rows[c.y][c.x]

def get? (g : Grid) (c : Cell) : Option Bool :=
  if h : c.InField then some (g.get c h) else none

def isAlive (g : Grid) (c : Cell) : Bool :=
  (g.get? c).getD false

def revive (g : Grid) (c : Cell) (h : c.InField) : Grid :=
  have hx : c.x < side := h.1
  have hy : c.y < side := h.2
  ⟨g.rows.set c.y (g.rows[c.y].set c.x true)⟩

/-- The grid in which exactly the listed cells are alive. -/
def ofCells (cells : List Cell) : Except Fault Grid :=
  cells.foldlM (fun g c => if h : c.InField then .ok (g.revive c h)
    else .error (.outsideField c.y c.x)) blank

/-- The alive cells, column by column. -/
def aliveCells (g : Grid) : List Cell :=
  fieldCells.filter g.isAlive

def population (g : Grid) : Nat :=
  (g.rows.toList.flatMap Vector.toList).count true

theorem isAlive_eq {g : Grid} {c : Cell} (h : c.InField) :
    g.isAlive c = g.get c h := by
  simp [isAlive, get?, h]

theorem inField_of_isAlive {g : Grid} {c : Cell} (h : g.isAlive c) : c.InField := by
  refine Decidable.byContradiction fun hc => ?_
  simp [isAlive, get?, hc] at h

@[ext] theorem ext {g h : Grid} (heq : ∀ c : Cell, c.InField → g.isAlive c = h.isAlive c) :
    g = h := by
  rcases g with ⟨g⟩
  rcases h with ⟨h⟩
  congr 1
  ext y hy x hx
  have := heq ⟨x, y⟩ ⟨hx, hy⟩
  rwa [isAlive_eq ⟨hx, hy⟩, isAlive_eq ⟨hx, hy⟩] at this

@[simp] theorem isAlive_blank (c : Cell) : blank.isAlive c = false := by
  by_cases h : c.InField
  · rw [isAlive_eq h]; simp [blank, get]
  · simp [isAlive, get?, h]

@[simp] theorem isAlive_revive (g : Grid) (c d : Cell) (h : c.InField) :
    (g.revive c h).isAlive d = (decide (d = c) || g.isAlive d) := by
  by_cases hd : d.InField
  · rw [isAlive_eq hd, isAlive_eq hd]
    simp only [get, revive, Vector.getElem_set]
    rcases c with ⟨cx, cy⟩
    rcases d with ⟨dx, dy⟩
    by_cases hy : cy = dy
    · subst hy
      by_cases hx : cx = dx
      · subst hx; simp
      · simp [hx, Ne.symm hx]
    · simp [hy, Ne.symm hy]
  · have hcd : d ≠ c := fun e => hd (e ▸ h)
    simp [isAlive, get?, hd, hcd]

@[simp] theorem mem_aliveCells {g : Grid} {c : Cell} : c ∈ g.aliveCells ↔ g.isAlive c := by
  simpa [aliveCells] using fun h => inField_of_isAlive h

end Grid

end LifeRom
