import LifeRom.Proofs.Layout.Drawing

/-! # Layout in bounds

Layout on rows of which nothing says how many there are, with a look at the bounds: a stretch outside
its row, a row too many and a cell that is not there give nothing.
-/

namespace LifeRom

/-- The row with a stretch alive as well, if the stretch lies in the row: it ends neither before it
begins nor behind the row. -/
def Row.fill? (row : Row) (first last : Nat) : Option Row :=
  if first ≤ last ∧ last ≤ side then some (row.fill first last) else none

/-- Rows from top to bottom, however many. -/
abbrev Rows := Array Row

namespace Rows

def extend? (rows : Rows) (count : Nat) : Option Rows :=
  if rows.size ≤ count then some (rows ++ Array.replicate (count - rows.size) Row.blank) else none

def cell? (rows : Rows) (c : Cell) : Option Bool := do
  let row ← rows[c.y]?
  row[c.x]?

def revive? (rows : Rows) (c : Cell) : Option Rows :=
  if h : c.y < rows.size ∧ c.x < side then some (rows.set c.y (rows[c.y].set c.x true)) else none

/-- All rows of the field are there, and in them all of its cells. -/
structure IsField (rows : Rows) : Prop where
  size : rows.size = side
  length : ∀ row ∈ rows, row.toList.length = side
  cell? : ∀ c : Cell, c.InField → ∃ alive, rows.cell? c = some alive

end Rows

/-- An outcome or a fault, or nothing where the bounds are left. -/
abbrev Checked := ExceptT Fault Option

/-- What comes out where the bounds are kept. -/
def Checked.of {α : Type} (outcome : Except Fault α) : Checked α := ExceptT.mk (some outcome)

namespace Grid

def toRows (g : Grid) : Rows := g.rows.toArray

def blankRows : Rows := Array.replicate side Row.blank

def ofCells? (cells : List Cell) : Checked Rows :=
  cells.foldlM (fun rows c => do
    if ¬ c.InField then throw (.outsideField c.y c.x)
    rows.revive? c) blankRows

theorem toRows_blank : blank.toRows = blankRows := by
  simp [toRows, blank, blankRows]

theorem cell?_toRows (g : Grid) {c : Cell} (h : c.InField) :
    g.toRows.cell? c = some (g.get c h) := by
  have hx : c.x < side := h.1
  have hy : c.y < side := h.2
  simp [Rows.cell?, toRows, get, hx, hy]

theorem isField_toRows (g : Grid) : g.toRows.IsField where
  size := g.rows.size_toArray
  length row _ := row.length_toList
  cell? _ h := ⟨_, g.cell?_toRows h⟩

theorem revive?_toRows (g : Grid) {c : Cell} (h : c.InField) :
    g.toRows.revive? c = some (g.revive c h).toRows := by
  have hx : c.x < side := h.1
  have hy : c.y < side := h.2
  simp [Rows.revive?, toRows, revive, hx, hy]

theorem ofCells?_eq (cells : List Cell) : ofCells? cells = Checked.of (toRows <$> ofCells cells) := by
  rw [ofCells?, ofCells, ← toRows_blank]
  generalize blank = g
  induction cells generalizing g with
  | nil => rfl
  | cons c cells ih =>
    by_cases h : c.InField
    · simp only [List.foldlM_cons, h, not_true, if_false, dif_pos, revive?_toRows]
      exact ih (g.revive c h)
    · simp only [List.foldlM_cons, h, not_false_eq_true, if_true, dif_neg]
      rfl

theorem isField_of_eq {outcome : Except Fault Grid} {rows : Rows}
    (h : some (toRows <$> outcome) = some (.ok rows)) : rows.IsField := by
  cases outcome with
  | error e => cases h
  | ok g =>
    cases h
    exact g.isField_toRows

end Grid

namespace Layout

section

variable (left : Nat)

/-- The step with a look at the stretch that it fills. -/
def step? (s : Layout) : Token → Checked Layout
  | .alive n => do
    let last := Counting.word.advance s.column n
    if side < last then throw (.outsideField s.closed.size side)
    let row ← s.row.fill? s.column last
    return { s with row, column := last }
  | t => Checked.of (s.step .word left t)

def run? (s : Layout) : List Token → Checked Rows
  | [] => throw .unterminated
  | .stop :: _ => do
    let s ← s.step? left .stop
    Rows.extend? s.closed side
  | t :: ts => do
    let s ← s.step? left t
    run? s ts

end

/-- No more rows than the field has, and a column that is a word. -/
structure Bounded (s : Layout) : Prop where
  size_le : s.closed.size ≤ side
  column_le : s.column ≤ maxWord

variable {left : Nat} {s s' : Layout} {t : Token} {ts before : List Token}

theorem bounded_start {top : Nat} (hleft : left ≤ maxWord) (htop : top ≤ side) :
    (start left top).Bounded where
  size_le := by simpa [start] using htop
  column_le := hleft

theorem Bounded.le_advance (h : s.Bounded) (n : Nat) :
    s.column ≤ Counting.word.advance s.column n := by
  have := h.column_le
  simp only [Counting.word]
  omega

theorem Bounded.step (h : s.Bounded) (hleft : left ≤ maxWord) (hs : s.step .word left t = .ok s') :
    s'.Bounded := by
  cases t with
  | dead n =>
    cases hs
    exact ⟨h.size_le, Nat.min_le_right _ _⟩
  | alive n =>
    simp only [Layout.step] at hs
    split at hs
    · cases hs
    · cases hs
      exact ⟨h.size_le, Nat.min_le_right _ _⟩
  | rowEnd | stop =>
    obtain ⟨closed, hclosed, hs⟩ := bind_eq_ok_iff.mp hs
    cases hs
    simp only [closeRow] at hclosed
    split at hclosed
    · cases hclosed
    · cases hclosed
      have := h.size_le
      exact ⟨by simp; omega, hleft⟩

theorem Bounded.foldlM (h : s.Bounded) (hleft : left ≤ maxWord)
    (hs : ts.foldlM (Layout.step .word left) s = .ok s') : s'.Bounded := by
  induction ts generalizing s with
  | nil => cases hs; exact h
  | cons t ts ih =>
    obtain ⟨s₁, hstep, hs⟩ := bind_eq_ok_iff.mp hs
    exact ih (h.step hleft hstep) hs

theorem Bounded.step_alive {n : Nat} (h : s.Bounded) (hs : s.step .word left (.alive n) = .ok s') :
    s.column ≤ s'.column ∧ s'.column ≤ side ∧ s'.row = s.row.fill s.column s'.column := by
  have hle := h.le_advance n
  simp only [Layout.step] at hs
  split at hs
  · cases hs
  · next hlast =>
    cases hs
    exact ⟨hle, Nat.le_of_not_lt hlast, rfl⟩

theorem Bounded.step?_eq (h : s.Bounded) (t : Token) :
    s.step? left t = Checked.of (s.step .word left t) := by
  cases t with
  | dead | rowEnd | stop => rfl
  | alive n =>
    have hle := h.le_advance n
    simp only [step?, Layout.step]
    split
    · rfl
    · next hlast =>
      rw [Row.fill?, if_pos ⟨hle, Nat.le_of_not_lt hlast⟩]
      rfl

/-- Blank rows bring the closed rows to the size of the field, and none is dropped. -/
theorem toRows_grid (h : s.closed.size ≤ side) :
    s.grid.toRows = s.closed ++ Array.replicate (side - s.closed.size) Row.blank := by
  apply Array.ext
  · simp [Grid.toRows, grid]
    omega
  · intro y _ _
    by_cases hy : y < s.closed.size
    · simp [Grid.toRows, grid, hy]
    · have hy := Nat.le_of_not_lt hy
      simp [Grid.toRows, grid, Array.getElem_append_right hy, hy]

theorem Bounded.extend?_eq (h : s.Bounded) :
    Rows.extend? s.closed side = some s.grid.toRows := by
  rw [Rows.extend?, if_pos h.size_le, toRows_grid h.size_le]

theorem Bounded.run?_eq (h : s.Bounded) (hleft : left ≤ maxWord) (ts : List Token) :
    s.run? left ts = Checked.of (Grid.toRows <$> s.run .word left ts) := by
  induction ts generalizing s with
  | nil => rfl
  | cons t ts ih =>
    cases hstep : s.step .word left t with
    | error e =>
      cases t with
      | dead | alive | rowEnd | stop =>
        simp only [run?, run, h.step?_eq, hstep]
        rfl
    | ok s' =>
      have hs' := h.step hleft hstep
      cases t with
      | stop =>
        simp only [run?, run, h.step?_eq, hstep]
        change (Rows.extend? s'.closed side : Checked Rows) = _
        rw [hs'.extend?_eq]
        rfl
      | dead | alive | rowEnd =>
        simp only [run?, run, h.step?_eq, hstep]
        exact ih hs'

/-- A run goes on from where the tokens before the first `stop` have brought the layout. -/
theorem run_append {arith : Counting} (h : .stop ∉ before) (s : Layout) (ts : List Token) :
    s.run arith left (before ++ ts) =
      before.foldlM (Layout.step arith left) s >>= fun s => s.run arith left ts := by
  induction before generalizing s with
  | nil => rfl
  | cons t before ih =>
    rw [List.mem_cons, not_or] at h
    have hrun : s.run arith left (t :: (before ++ ts)) =
        s.step arith left t >>= fun s => s.run arith left (before ++ ts) := by
      cases t with
      | stop => exact absurd rfl h.1
      | dead | alive | rowEnd => rfl
    rw [List.cons_append, hrun, List.foldlM_cons, bind_assoc]
    exact bind_congr fun s => ih h.2 s

end Layout

namespace Pattern

variable (p : Pattern)

/-- The layout behind the given tokens, unless one of them leaves the field. -/
def layoutAfter (before : List Token) : Except Fault Layout :=
  before.foldlM (Layout.step .word p.margins.left) (Layout.start p.margins.left p.margins.top)

def layOut? : Checked Rows :=
  (Layout.start p.margins.left p.margins.top).run? p.margins.left p.tokens

theorem left_margins_le_maxWord : p.margins.left ≤ maxWord :=
  p.left_margins_le.trans side_lt_maxWord.le

theorem bounded_start : (Layout.start p.margins.left p.margins.top).Bounded :=
  Layout.bounded_start p.left_margins_le_maxWord p.top_margins_le

theorem bounded_layoutAfter {before : List Token} {s : Layout} (h : p.layoutAfter before = .ok s) :
    s.Bounded :=
  p.bounded_start.foldlM p.left_margins_le_maxWord h

theorem layOut?_eq : p.layOut? = Checked.of (Grid.toRows <$> p.layOut) :=
  p.bounded_start.run?_eq p.left_margins_le_maxWord p.tokens

/-- A layout with a look at the bounds gives what the layout without it gives, as does the making of
a grid from cells, and what comes out has all rows and cells of the field. -/
theorem layOut_in_bounds (p : Pattern) :
    (∀ before after, p.tokens = before ++ after → .stop ∉ before →
      p.layOut = p.layoutAfter before >>= fun s => s.run .word p.margins.left after) ∧
    (∀ before s, p.layoutAfter before = .ok s →
      s.closed.size ≤ side ∧
      (∀ n s', s.step .word p.margins.left (.alive n) = .ok s' →
        s.column ≤ s'.column ∧ s'.column ≤ side ∧ s'.row = s.row.fill s.column s'.column) ∧
      s.grid.toRows = s.closed ++ Array.replicate (side - s.closed.size) Row.blank) ∧
    p.layOut?.run = some (Grid.toRows <$> p.layOut) ∧
    (∀ cells, (Grid.ofCells? cells).run = some (Grid.toRows <$> Grid.ofCells cells)) ∧
    (∀ rows, rows = Grid.blank.toRows ∨ p.layOut?.run = some (.ok rows) ∨
      (∃ cells, (Grid.ofCells? cells).run = some (.ok rows)) → rows.IsField) ∧
    ∀ (g : Grid) c (h : c.InField), g.toRows.cell? c = some (g.get c h) := by
  have hlayOut : p.layOut?.run = some (Grid.toRows <$> p.layOut) := p.layOut?_eq
  have hcells cells : (Grid.ofCells? cells).run = some (Grid.toRows <$> Grid.ofCells cells) :=
    Grid.ofCells?_eq cells
  refine ⟨fun before after htokens hstop => ?_, fun before s hs => ?_, hlayOut, hcells, ?_,
    fun g _ => g.cell?_toRows⟩
  · rw [layOut, layOutWith, htokens, Layout.run_append hstop]
    rfl
  · have hbounded := p.bounded_layoutAfter hs
    exact ⟨hbounded.size_le, fun n s' => hbounded.step_alive,
      Layout.toRows_grid hbounded.size_le⟩
  · rintro rows (rfl | h | ⟨cells, h⟩)
    · exact Grid.blank.isField_toRows
    · exact Grid.isField_of_eq (hlayOut.symm.trans h)
    · exact Grid.isField_of_eq ((hcells cells).symm.trans h)

/-- An empty run, a dead run that stops at the largest word, and a row filled up to the edge. -/
theorem layOut_in_bounds_largest_word :
    ∃ (p : Pattern) (s : Layout) (rows : Rows),
      p.tokens = [.alive 0, .dead maxWord, .dead 3] ++ [.rowEnd, .alive 50, .stop] ∧
      p.layoutAfter [.alive 0, .dead maxWord, .dead 3] = .ok s ∧ s.column = maxWord ∧
      s.closed.size ≤ side ∧ p.layOut?.run = some (.ok rows) ∧ rows.IsField ∧
      rows.cell? ⟨49, 1⟩ = some true := by
  obtain ⟨p, s, g, htokens, hs, hcolumn, hg, hcell⟩ : ∃ (p : Pattern) (s : Layout) (g : Grid),
      p.tokens = [.alive 0, .dead maxWord, .dead 3, .rowEnd, .alive 50, .stop] ∧
      p.layoutAfter [.alive 0, .dead maxWord, .dead 3] = .ok s ∧ s.column = maxWord ∧
      p.layOut = .ok g ∧ g.toRows.cell? ⟨49, 1⟩ = some true := by
    refine ⟨⟨50, 50, _, by decide, by decide⟩, _, _, rfl, rfl, ?_, rfl, ?_⟩
    · decide
    · decide
  obtain ⟨-, hbounds, hlayOut, -, hfield, -⟩ := layOut_in_bounds p
  rw [hg] at hlayOut
  exact ⟨p, s, g.toRows, htokens, hs, hcolumn, (hbounds _ s hs).1, hlayOut,
    hfield _ (Or.inr (Or.inl hlayOut)), hcell⟩

end Pattern

end LifeRom
