import LifeRom.Proofs.Grid
import LifeRom.Proofs.Layout.Drawing

/-! # How many cells a layout draws

The alive runs before a cursor cover cells above it and to the left of it, so no two of them share a
cell.
-/

namespace LifeRom

namespace Token

/-- The cells that the alive runs among tokens take up together. -/
def aliveLength : List Token → Nat
  | [] => 0
  | alive n :: ts => n + aliveLength ts
  | _ :: ts => aliveLength ts

theorem aliveLength_concat_alive (ts : List Token) (n : Nat) :
    aliveLength (ts ++ [alive n]) = aliveLength ts + n := by
  induction ts with
  | nil => simp [aliveLength]
  | cons u ts ih => cases u <;> simp [aliveLength, ih, Nat.add_assoc]

theorem aliveLength_concat_of_ne (ts : List Token) {t : Token} (h : ∀ n, t ≠ alive n) :
    aliveLength (ts ++ [t]) = aliveLength ts := by
  induction ts with
  | nil => cases t <;> simp_all [aliveLength]
  | cons u ts ih => cases u <;> simp [aliveLength, ih]

/-- Tokens cut at the row ends. -/
def rows (ts : List Token) : List (List Token) := ts.splitOn .rowEnd

theorem head?_rows (ts : List Token) :
    (rows ts).head? = some (ts.takeWhile (· ≠ .rowEnd)) := by
  unfold rows
  induction ts with
  | nil => simp [List.splitOn_nil]
  | cons t ts ih =>
    rw [List.splitOn_cons_eq_if_modifyHead]
    by_cases ht : t = .rowEnd
    · simp [ht]
    · simp [ht, ih]

theorem append_takeWhile_mem_rows (before after : List Token) :
    before.rtakeWhile (· ≠ .rowEnd) ++ after.takeWhile (· ≠ .rowEnd) ∈ rows (before ++ after) := by
  induction before using List.reverseRecOn generalizing after with
  | nil => exact List.mem_of_mem_head? (head?_rows after)
  | append_singleton before t ih =>
    rw [List.append_assoc, List.singleton_append]
    by_cases ht : t = .rowEnd
    · subst ht
      rw [List.rtakeWhile_concat_neg _ _ _ (by simp), List.nil_append, rows,
        List.splitOn_append_cons_self]
      exact List.mem_append_right _ (List.mem_of_mem_head? (head?_rows after))
    · have hrow := ih (t :: after)
      rw [List.takeWhile_cons_of_pos (by simpa using ht)] at hrow
      rwa [List.rtakeWhile_concat_pos _ _ _ (by simpa using ht), List.append_assoc,
        List.singleton_append]

end Token

namespace Pattern

variable {p : Pattern} {before : List Token} {c : Cell} {n : Nat}

/-- The tokens before the first `stop`, which alone are drawn. -/
def active (p : Pattern) : List Token := p.tokens.takeWhile (· ≠ .stop)

theorem Reaches.eq_active (h : p.Reaches before .stop) : before = p.active := by
  obtain ⟨⟨after, htokens⟩, hstop⟩ := h
  have hbefore : ∀ t ∈ before, decide (t ≠ Token.stop) := fun t ht =>
    decide_eq_true (ne_of_mem_of_not_mem ht hstop)
  rw [active, ← htokens, List.append_assoc, List.takeWhile_append_of_pos hbefore]
  simp

theorem reaches_active (h : .stop ∈ p.tokens) : p.Reaches p.active .stop := by
  obtain ⟨before, after, htokens, hstop⟩ := List.eq_append_cons_of_mem h
  have hreaches : p.Reaches before .stop := ⟨⟨after, by simp [htokens]⟩, hstop⟩
  exact hreaches.eq_active ▸ hreaches

theorem CoveredBy.behind (h : p.CoveredBy before c) :
    c.y < p.rowAfter before ∨ c.y = p.rowAfter before ∧ c.x < p.columnAfter before := by
  induction before using List.reverseRecOn with
  | nil => exact absurd h p.not_coveredBy_nil
  | append_singleton before t ih =>
    rcases p.coveredBy_concat.mp h with hearlier | ⟨n, rfl, hrow, -, hlast⟩
    · by_cases hend : t = .rowEnd
      · subst hend
        rw [rowAfter_concat_rowEnd]
        have := ih hearlier
        omega
      · rw [p.rowAfter_concat hend, p.columnAfter_concat hend]
        have := ih hearlier
        omega
    · rw [p.rowAfter_concat (by simp), p.columnAfter_concat (by simp)]
      exact Or.inr ⟨hrow.symm, hlast⟩

def runCells (p : Pattern) (before : List Token) (n : Nat) : List Cell :=
  (List.range n).map fun j => ⟨p.columnAfter before + j, p.rowAfter before⟩

theorem mem_runCells : c ∈ p.runCells before n ↔ p.RunOver before n c := by
  rw [runCells, List.mem_map]
  constructor
  · rintro ⟨j, hj, rfl⟩
    exact ⟨rfl, Nat.le_add_right _ _, Nat.add_lt_add_left (List.mem_range.mp hj) _⟩
  · rintro ⟨hy, hfirst, hlast⟩
    refine ⟨c.x - p.columnAfter before, List.mem_range.mpr (by omega), ?_⟩
    rw [hy, Nat.add_sub_cancel' hfirst]

theorem nodup_runCells : (p.runCells before n).Nodup := by
  apply List.nodup_range.map
  intro i j h
  exact Nat.add_left_cancel (Cell.mk.inj h).1

variable (p before) in
/-- No cell is drawn twice: the covered cells are as many as the alive runs take up. -/
theorem exists_coveredCells :
    ∃ cells : List Cell, cells.Nodup ∧ cells.length = Token.aliveLength before ∧
      ∀ c, c ∈ cells ↔ p.CoveredBy before c := by
  induction before using List.reverseRecOn with
  | nil => exact ⟨[], List.nodup_nil, rfl, by simp [not_coveredBy_nil]⟩
  | append_singleton before t ih =>
    obtain ⟨cells, hnodup, hlength, hcells⟩ := ih
    by_cases halive : ∃ n, t = .alive n
    · obtain ⟨n, rfl⟩ := halive
      refine ⟨cells ++ p.runCells before n, ?_, ?_, fun c => ?_⟩
      · refine List.nodup_append'.mpr ⟨hnodup, nodup_runCells, fun c hc hrun => ?_⟩
        obtain ⟨hrow, hfirst, -⟩ := mem_runCells.mp hrun
        have := ((hcells c).mp hc).behind
        omega
      · rw [List.length_append, hlength, Token.aliveLength_concat_alive, runCells, List.length_map,
          List.length_range]
      · rw [List.mem_append, hcells, mem_runCells, coveredBy_concat]
        simp
    · rw [not_exists] at halive
      refine ⟨cells, hnodup, ?_, fun c => ?_⟩
      · rw [hlength, Token.aliveLength_concat_of_ne _ halive]
      · rw [hcells, p.coveredBy_concat_of_ne halive]

theorem Fits.inField_of_covers (h : p.Fits) (hc : p.Covers c) : c.InField := by
  obtain ⟨hruns, before, hstop, hrow⟩ := h
  obtain ⟨earlier, n, hr, hy, -, hx⟩ := hc
  have hlast := p.rowAfter_mono (hr.prefix_of_stop hstop)
  have hedge := hruns earlier n hr
  exact ⟨by omega, by omega⟩

theorem population_of_layOut {g : Grid} (h : p.layOut = .ok g) :
    g.population = Token.aliveLength p.active := by
  obtain ⟨hfits, halive⟩ := layOut_eq_ok_iff.mp h
  obtain ⟨-, before, hstop, -⟩ := id hfits
  obtain rfl := hstop.eq_active
  obtain ⟨cells, hnodup, hlength, hcells⟩ := p.exists_coveredCells p.active
  rw [← hlength]
  apply Grid.population_eq_of_nodup hnodup
  intro c
  rw [hcells, ← covers_iff hstop]
  constructor
  · intro hc
    exact (halive c (hfits.inField_of_covers hc)).mpr hc
  · intro hc
    exact (halive c (Grid.inField_of_isAlive hc)).mp hc

/-- The pattern is ended, and before that no row is longer than declared and no more rows are
opened. -/
structure KeepsSize (p : Pattern) : Prop where
  ended : .stop ∈ p.tokens
  width : ∀ row ∈ Token.rows p.active, Token.span row ≤ p.width
  height : p.active.count .rowEnd ≤ max p.height 1 - 1

theorem KeepsSize.columnAfter_le (h : p.KeepsSize) (hp : before <+: p.active) :
    p.columnAfter before ≤ p.margins.left + p.width := by
  obtain ⟨after, hactive⟩ := hp
  have hrow := Token.append_takeWhile_mem_rows before after
  rw [hactive] at hrow
  have hspan := h.width _ hrow
  rw [Token.span_append] at hspan
  exact Nat.add_le_add_left (by omega) _

theorem KeepsSize.fits (h : p.KeepsSize) : p.Fits := by
  have hstop := reaches_active h.ended
  refine ⟨fun before n hr => ?_, p.active, hstop, ?_⟩
  · have hrun : before ++ [.alive n] <+: p.active := by
      rcases hr.compare hstop with ⟨-, ht⟩ | hp | hp
      · cases ht
      · exact hp
      · exact absurd (hp.subset (by simp)) hr.2
    have hcolumn := h.columnAfter_le hrun
    rw [p.columnAfter_concat (by simp), Token.length_alive, margins, Margins.left_centring]
      at hcolumn
    have := p.width_le
    omega
  · have hheight := h.height
    have := p.height_le
    simp only [rowAfter, side] at *
    omega

/-- A grid that was laid out has as many alive cells as the alive runs before the first `stop` take
up, and every pattern that keeps to its declared size is laid out. -/
theorem layOut_population (p : Pattern) :
    (∀ g, p.layOut = .ok g →
      g.population = Token.aliveLength (p.tokens.takeWhile (· ≠ .stop)) ∧
        g.aliveCells.length = g.population) ∧
      (p.KeepsSize → ∃ g, p.layOut = .ok g) :=
  ⟨fun g hg => ⟨population_of_layOut hg, g.population_eq_length.symm⟩,
    fun h => exists_layOut_eq_ok_iff.mpr h.fits⟩

/-- An empty run, an odd width, and a run behind the first `stop`. -/
theorem layOut_population_empty_run :
    ∃ p : Pattern, p.tokens = [.dead 1, .alive 0, .alive 2, .rowEnd, .alive 1, .stop, .alive 7] ∧
      p.KeepsSize ∧ ∃ g, p.layOut = .ok g ∧ g.population = 3 ∧ g.aliveCells.length = 3 := by
  let p : Pattern := ⟨3, 2, [.dead 1, .alive 0, .alive 2, .rowEnd, .alive 1, .stop, .alive 7],
    by decide, by decide⟩
  have hkeeps : p.KeepsSize := ⟨by decide, by decide, by decide⟩
  obtain ⟨hcount, hsucceeds⟩ := layOut_population p
  obtain ⟨g, hg⟩ := hsucceeds hkeeps
  obtain ⟨hpopulation, hlength⟩ := hcount g hg
  exact ⟨p, rfl, hkeeps, g, hg, hpopulation, hlength.trans hpopulation⟩

end Pattern

end LifeRom
