import LifeRom.Proofs.Layout.Placement

/-! # Drawing

What a layout has drawn after some tokens is what these tokens cover. So a pattern is laid out
exactly if it fits, with the cells that it covers, however columns outside the field are counted.
-/

namespace LifeRom

namespace Counting

/-- Columns are counted in the image of `shown`, which keeps those of the field. -/
structure Shows (arith : Counting) (shown : Nat → Nat) : Prop where
  advance_shown (column n : Nat) : arith.advance (shown column) n = shown (column + n)
  shown_eq {column : Nat} (h : column ≤ side) : shown column = column
  side_lt_iff {column : Nat} : side < shown column ↔ side < column

theorem word_shows : word.Shows (min · maxWord) where
  advance_shown column n := by simp only [word]; omega
  shown_eq h := Nat.min_eq_left (h.trans side_lt_maxWord.le)
  side_lt_iff := side_lt_min_maxWord

theorem exact_shows : exact.Shows id where
  advance_shown _ _ := rfl
  shown_eq _ := rfl
  side_lt_iff := Iff.rfl

end Counting

open Counting

namespace Layout

/-- The cell as drawn so far, with blank rows below the row of the cursor. -/
def isAlive (s : Layout) (c : Cell) : Bool :=
  if h : c.x < side then ((s.closed.push s.row)[c.y]?.getD Row.blank)[c.x] else false

theorem isAlive_eq (s : Layout) {c : Cell} (h : c.x < side) :
    s.isAlive c = ((s.closed.push s.row)[c.y]?.getD Row.blank)[c.x] := by
  simp [isAlive, h]

theorem isAlive_grid {s : Layout} {c : Cell} (hx : c.x < side) (hy : c.y < side) :
    s.grid.isAlive c = (s.closed[c.y]?.getD Row.blank)[c.x] := by
  rw [Grid.isAlive_eq ⟨hx, hy⟩]
  simp [grid, Grid.get]

theorem isAlive_open (closed : Array Row) (column : Nat) {c : Cell} (h : c.x < side) :
    isAlive ⟨closed, Row.blank, column⟩ c = (closed[c.y]?.getD Row.blank)[c.x] := by
  rw [isAlive_eq _ h, Array.getElem?_push]
  by_cases hy : c.y = closed.size
  · simp [hy]
  · simp [hy]

theorem isAlive_fill (s : Layout) (first last column : Nat) {c : Cell} (h : c.x < side) :
    isAlive { s with row := s.row.fill first last, column } c =
      (s.isAlive c || (c.y == s.closed.size && (first ≤ c.x && c.x < last))) := by
  rw [isAlive_eq _ h, isAlive_eq _ h, Array.getElem?_push, Array.getElem?_push]
  by_cases hy : c.y = s.closed.size
  · simp [hy]
  · simp [hy]

theorem run_append_stop (arith : Counting) (left : Nat) (s : Layout)
    (before ts ts' : List Token) :
    s.run arith left (before ++ .stop :: ts) = s.run arith left (before ++ .stop :: ts') := by
  induction before generalizing s with
  | nil => rfl
  | cons t before ih =>
    cases t with
    | stop => rfl
    | dead | alive | rowEnd =>
      simp only [List.cons_append, run]
      congr 1
      exact funext ih

end Layout

namespace Pattern

open Layout

variable {p : Pattern} {before ts : List Token} {s : Layout} {t : Token} {e : Fault}
  {arith : Counting} {shown : Nat → Nat}

/-- The layout shows what the tokens `before` draw. -/
structure Drawn (shown : Nat → Nat) (p : Pattern) (before : List Token) (s : Layout) : Prop where
  size_closed : s.closed.size = p.rowAfter before
  size_le : s.closed.size ≤ side
  column : s.column = shown (p.columnAfter before)
  isAlive_iff : ∀ c : Cell, c.x < side → (s.isAlive c ↔ p.CoveredBy before c)

theorem drawn_start (ha : arith.Shows shown) :
    Drawn shown p [] (start p.margins.left p.margins.top) where
  size_closed := by simp [start, margins]
  size_le := by simpa [start] using p.top_margins_le
  column := by rw [columnAfter_nil, ha.shown_eq p.left_margins_le]; rfl
  isAlive_iff c hc := by
    simp only [start, isAlive_open _ _ hc, Array.getElem?_replicate, not_coveredBy_nil, iff_false]
    split <;> simp

theorem Drawn.advance_column (ha : arith.Shows shown) (h : Drawn shown p before s) (n : Nat) :
    arith.advance s.column n = shown (p.columnAfter before + n) := by
  rw [h.column, ha.advance_shown]

theorem Drawn.step_eq_error (ha : arith.Shows shown) (h : Drawn shown p before s)
    (ht : p.faultAt? before t = some e) : s.step arith p.margins.left t = .error e := by
  cases t with
  | dead n => cases ht
  | alive n =>
    simp only [faultAt?, Option.ite_none_right_eq_some, Option.some.injEq] at ht
    obtain ⟨hn, rfl⟩ := ht
    simp only [step, h.advance_column ha, ha.side_lt_iff, if_pos hn, h.size_closed]
  | rowEnd | stop =>
    simp only [faultAt?, Option.ite_none_right_eq_some, Option.some.injEq] at ht
    obtain ⟨hrow, rfl⟩ := ht
    simp only [step, closeRow_eq_error (h.size_closed.trans hrow)]
    rfl

theorem Drawn.closeRow (h : Drawn shown p before s) (hrow : p.rowAfter before ≠ side) :
    s.closeRow = .ok (s.closed.push s.row) :=
  closeRow_eq_ok (h.size_closed ▸ hrow)

theorem Drawn.isAlive_push_iff (h : Drawn shown p before s) {c : Cell} (hc : c.x < side) :
    ((s.closed.push s.row)[c.y]?.getD Row.blank)[c.x] ↔ p.CoveredBy before c := by
  rw [← isAlive_eq s hc, h.isAlive_iff c hc]

theorem Drawn.fill (ha : arith.Shows shown) (h : Drawn shown p before s) {n : Nat}
    (hn : p.columnAfter before + n ≤ side) :
    Drawn shown p (before ++ [.alive n])
      { s with
        row := s.row.fill s.column (p.columnAfter before + n)
        column := p.columnAfter before + n } where
  size_closed := by rw [h.size_closed, p.rowAfter_concat (by simp)]
  size_le := h.size_le
  column := by
    rw [p.columnAfter_concat (by simp), Token.length_alive, ha.shown_eq hn]
  isAlive_iff c hc := by
    have hcol : s.column = p.columnAfter before := by
      rw [h.column, ha.shown_eq (Nat.le_of_add_right_le hn)]
    rw [isAlive_fill _ _ _ _ hc, coveredBy_concat, hcol, h.size_closed, Bool.or_eq_true,
      h.isAlive_iff c hc]
    simp [RunOver, eq_comm (a := c.y)]

theorem Drawn.step_eq_ok (ha : arith.Shows shown) (h : Drawn shown p before s) (hstop : t ≠ .stop)
    (ht : p.faultAt? before t = none) :
    ∃ s', s.step arith p.margins.left t = .ok s' ∧ Drawn shown p (before ++ [t]) s' := by
  cases t with
  | dead n =>
    refine ⟨_, rfl, ?_, h.size_le, ?_, fun c hc => ?_⟩
    · rw [h.size_closed, p.rowAfter_concat (by simp)]
    · rw [h.advance_column ha, p.columnAfter_concat (by simp), Token.length_dead]
    · rw [p.coveredBy_concat_of_ne (by simp), ← h.isAlive_iff c hc]
      rfl
  | alive n =>
    have hn : p.columnAfter before + n ≤ side := by
      simpa [faultAt?] using ht
    have hlast : arith.advance s.column n = p.columnAfter before + n := by
      rw [h.advance_column ha, ha.shown_eq hn]
    refine ⟨_, ?_, h.fill ha hn⟩
    simp only [step, hlast, if_neg (Nat.not_lt.mpr hn)]
  | rowEnd =>
    have hrow : p.rowAfter before ≠ side := by
      simpa [faultAt?] using ht
    refine ⟨⟨s.closed.push s.row, Row.blank, p.margins.left⟩, ?_, ?_, ?_, ?_, fun c hc => ?_⟩
    · simp only [step, h.closeRow hrow]
      rfl
    · simp [h.size_closed]
    · have := h.size_le
      have := h.size_closed
      simp only [Array.size_push]
      omega
    · rw [columnAfter_concat_rowEnd, ha.shown_eq p.left_margins_le]
    · rw [isAlive_open _ _ hc, p.coveredBy_concat_of_ne (by simp)]
      exact h.isAlive_push_iff hc
  | stop => exact absurd rfl hstop

theorem Drawn.run_stop (h : Drawn shown p before s) (ht : p.faultAt? before .stop = none)
    (ts : List Token) :
    ∃ g, s.run arith p.margins.left (.stop :: ts) = .ok g ∧
      ∀ c, c.InField → (g.isAlive c ↔ p.CoveredBy before c) := by
  have hrow : p.rowAfter before ≠ side := by
    simpa [faultAt?] using ht
  refine ⟨grid ⟨s.closed.push s.row, Row.blank, p.margins.left⟩, ?_, fun c hc => ?_⟩
  · simp only [run, step, h.closeRow hrow]
    rfl
  · rw [isAlive_grid hc.1 hc.2]
    exact h.isAlive_push_iff hc.1

/-- What a run makes of the tokens that are left: the first fault among them, or the grid of a
pattern that fits. -/
theorem Drawn.run (ha : arith.Shows shown) (h : Drawn shown p before s)
    (hp : p.tokens = before ++ ts) (hs : .stop ∉ before) (hf : p.Faultless before) :
    (∃ e, s.run arith p.margins.left ts = .error e ∧ p.Fails e) ∨
      ∃ g, s.run arith p.margins.left ts = .ok g ∧ p.Fits ∧
        ∀ c, c.InField → (g.isAlive c ↔ p.Covers c) := by
  induction ts generalizing before s with
  | nil =>
    rw [List.append_nil] at hp
    exact Or.inl ⟨.unterminated, rfl, Or.inr ⟨hp ▸ hs, hp ▸ hf, rfl⟩⟩
  | cons t ts ih =>
    have hr : p.Reaches before t := ⟨⟨ts, by simp [hp]⟩, hs⟩
    cases ht : p.faultAt? before t with
    | some e =>
      refine Or.inl ⟨e, ?_, Or.inl ⟨before, t, hr, hf, ht⟩⟩
      have := h.step_eq_error ha ht
      cases t <;> simp [Layout.run, this, bind, Except.bind]
    | none =>
      by_cases hstop : t = .stop
      · subst hstop
        have hrow := rowAfter_lt_of_faultAt?_stop (h.size_closed ▸ h.size_le) ht
        obtain ⟨g, hg, hcells⟩ := h.run_stop ht ts
        refine Or.inr ⟨g, hg, fits_of_faultless hr hf hrow, fun c hc => ?_⟩
        rw [covers_iff hr, hcells c hc]
      · obtain ⟨s', hstep, hs'⟩ := h.step_eq_ok ha hstop ht
        have hrun : s.run arith p.margins.left (t :: ts) = s'.run arith p.margins.left ts := by
          cases t with
          | stop => exact absurd rfl hstop
          | dead | alive | rowEnd => simp [Layout.run, hstep, bind, Except.bind]
        rw [hrun]
        refine ih hs' (by simp [hp]) ?_ (faultless_concat.mpr ⟨hf, ht⟩)
        simpa [hs] using Ne.symm hstop

variable (p) in
theorem layOutWith_cases (ha : arith.Shows shown) :
    (∃ e, p.layOutWith arith = .error e ∧ p.Fails e) ∨
      ∃ g, p.layOutWith arith = .ok g ∧ p.Fits ∧ ∀ c, c.InField → (g.isAlive c ↔ p.Covers c) :=
  (drawn_start ha).run ha rfl (by simp) faultless_nil

theorem layOutWith_eq_ok_iff (ha : arith.Shows shown) {g : Grid} :
    p.layOutWith arith = .ok g ↔ p.Fits ∧ ∀ c, c.InField → (g.isAlive c ↔ p.Covers c) := by
  rcases p.layOutWith_cases ha with ⟨e, he, hf⟩ | ⟨g', hg', hfits, hcells⟩
  · rw [he]
    constructor
    · intro h; cases h
    · rintro ⟨hfits, -⟩; exact absurd hfits hf.not_fits
  · rw [hg', Except.ok.injEq]
    constructor
    · rintro rfl; exact ⟨hfits, hcells⟩
    · rintro ⟨-, h⟩
      ext c hc
      rw [Bool.eq_iff_iff, hcells c hc, h c hc]

theorem layOutWith_eq_error_iff (ha : arith.Shows shown) {e : Fault} :
    p.layOutWith arith = .error e ↔ p.Fails e := by
  rcases p.layOutWith_cases ha with ⟨e', he, hf⟩ | ⟨g, hg, hfits, -⟩
  · rw [he, Except.error.injEq]
    constructor
    · rintro rfl; exact hf
    · intro h; exact hf.unique h
  · rw [hg]
    constructor
    · intro h; cases h
    · intro h; exact absurd hfits h.not_fits

theorem layOut_eq_ok_iff {g : Grid} :
    p.layOut = .ok g ↔ p.Fits ∧ ∀ c, c.InField → (g.isAlive c ↔ p.Covers c) :=
  layOutWith_eq_ok_iff word_shows

theorem layOut_eq_error_iff {e : Fault} : p.layOut = .error e ↔ p.Fails e :=
  layOutWith_eq_error_iff word_shows

/-- With exact columns a pattern means what it means with columns that stop at the largest word. -/
theorem layOutWith_exact_eq_ok_iff {g : Grid} :
    p.layOutWith exact = .ok g ↔ p.Fits ∧ ∀ c, c.InField → (g.isAlive c ↔ p.Covers c) :=
  layOutWith_eq_ok_iff exact_shows

theorem layOutWith_exact_eq_error_iff {e : Fault} : p.layOutWith exact = .error e ↔ p.Fails e :=
  layOutWith_eq_error_iff exact_shows

theorem layOutWith_exact (p : Pattern) : p.layOutWith exact = p.layOut := by
  cases h : p.layOut with
  | ok g => exact layOutWith_exact_eq_ok_iff.mpr (layOut_eq_ok_iff.mp h)
  | error e => exact layOutWith_exact_eq_error_iff.mpr (layOut_eq_error_iff.mp h)

theorem exists_layOut_eq_ok_iff : (∃ g, p.layOut = .ok g) ↔ p.Fits := by
  constructor
  · rintro ⟨g, hg⟩; exact (layOut_eq_ok_iff.mp hg).1
  · intro hfits
    rcases p.layOutWith_cases word_shows with ⟨e, -, hf⟩ | ⟨g, hg, -⟩
    · exact absurd hfits hf.not_fits
    · exact ⟨g, hg⟩

/-- A layout succeeds on the patterns that fit, with the cells that are covered alive, and else
names the first fault. The tokens behind the first `stop` have no effect. -/
theorem layOut_meaning (p : Pattern) :
    ((∃ g, p.layOut = .ok g) ↔ p.Fits) ∧
      (∀ g, p.layOut = .ok g ↔ p.Fits ∧ ∀ c, c.InField → (g.isAlive c ↔ p.Covers c)) ∧
      (∀ e, p.layOut = .error e ↔ p.Fails e) ∧
      ∀ before ts ts', layOut { p with tokens := before ++ .stop :: ts } =
        layOut { p with tokens := before ++ .stop :: ts' } :=
  ⟨exists_layOut_eq_ok_iff, fun _ => layOut_eq_ok_iff, fun _ => layOut_eq_error_iff,
    fun before ts ts' => Layout.run_append_stop _ _ _ before ts ts'⟩

end Pattern

end LifeRom
