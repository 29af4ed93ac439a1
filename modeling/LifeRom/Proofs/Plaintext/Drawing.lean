import LifeRom.Proofs.Layout.Drawing
import LifeRom.Proofs.Plaintext.Rows
import LifeRom.Proofs.Verilog.Naming
import LifeRom.Source

/-! # Plaintext documents in the field

The pattern of a document fits the field, and it covers the cells that the document shows.
-/

namespace LifeRom

open Token

namespace Pattern

variable (p : Pattern) {before ts : List Token} {c : Cell}

theorem rowAfter_append (h : .rowEnd ∉ ts) : p.rowAfter (before ++ ts) = p.rowAfter before := by
  simp [rowAfter, List.count_eq_zero.mpr h]

theorem columnAfter_append (h : .rowEnd ∉ ts) :
    p.columnAfter (before ++ ts) = p.columnAfter before + span ts := by
  induction ts using List.reverseRecOn with
  | nil => simp [span]
  | append_singleton ts t ih =>
    rw [List.mem_append, not_or, List.mem_singleton] at h
    rw [← List.append_assoc, p.columnAfter_concat (Ne.symm h.2), ih h.1, span_concat, Nat.add_assoc]

theorem coveredBy_append (h : .rowEnd ∉ ts) :
    p.CoveredBy (before ++ ts) c ↔ p.CoveredBy before c ∨
      c.y = p.rowAfter before ∧
        ∃ j, c.x = p.columnAfter before + j ∧ (drawn ts)[j]? = some true := by
  induction ts using List.reverseRecOn with
  | nil => simp
  | append_singleton ts t ih =>
    rw [List.mem_append, not_or, List.mem_singleton] at h
    have hrun (n : Nat) : p.RunOver (before ++ ts) n c ↔ c.y = p.rowAfter before ∧
        ∃ j, c.x = p.columnAfter before + j ∧ span ts ≤ j ∧ j < span ts + n := by
      rw [RunOver, p.rowAfter_append h.1, p.columnAfter_append h.1, eq_comm (a := c.y)]
      refine and_congr_right fun _ => ⟨fun hx => ⟨c.x - p.columnAfter before, by omega⟩, ?_⟩
      rintro ⟨j, hx, hj⟩
      omega
    rw [← List.append_assoc, coveredBy_concat, ih h.1]
    simp only [getElem?_drawn_concat, hrun]
    constructor
    · rintro ((hc | ⟨hy, j, hx, hd⟩) | ⟨n, ht, hy, j, hx, hn⟩)
      · exact Or.inl hc
      · exact Or.inr ⟨hy, j, hx, Or.inl hd⟩
      · exact Or.inr ⟨hy, j, hx, Or.inr ⟨n, ht, hn⟩⟩
    · rintro (hc | ⟨hy, j, hx, hd | ⟨n, ht, hn⟩⟩)
      · exact Or.inl (Or.inl hc)
      · exact Or.inl (Or.inr ⟨hy, j, hx, hd⟩)
      · exact Or.inr ⟨n, ht, hy, j, hx, hn⟩

end Pattern

namespace Plaintext

open Pattern

variable {p : Pattern} {rows : List (List Bool)} {row : List Bool} {c : Cell}

theorem rowEnd_not_mem_rowTokens (row : List Bool) : .rowEnd ∉ rowTokens row := fun h =>
  absurd (one_le_length_rowTokens row _ h) (by decide)

theorem closedRows_concat (rows : List (List Bool)) (row : List Bool) :
    closedRows (rows ++ [row]) = closedRows rows ++ rowTokens row ++ [.rowEnd] := by
  simp [closedRows]

theorem rowAfter_closedRows (p : Pattern) (rows : List (List Bool)) :
    p.rowAfter (closedRows rows) = p.margins.top + rows.length := by
  induction rows using List.reverseRecOn with
  | nil => rfl
  | append_singleton rows row ih =>
    rw [closedRows_concat, rowAfter_concat_rowEnd,
      p.rowAfter_append (rowEnd_not_mem_rowTokens row), ih, List.length_append]
    rfl

theorem columnAfter_closedRows (p : Pattern) (rows : List (List Bool)) :
    p.columnAfter (closedRows rows) = p.margins.left := by
  cases rows using List.reverseRecOn with
  | nil => rfl
  | append_singleton rows row => rw [closedRows_concat, columnAfter_concat_rowEnd]

/-- The cell is an alive one of rows that start at the margins of the pattern. -/
def Shows (p : Pattern) (rows : List (List Bool)) (c : Cell) : Prop :=
  ∃ i j row, rows[i]? = some row ∧ row[j]? = some true ∧ c.x = p.margins.left + j ∧
    c.y = p.margins.top + i

theorem shows_concat : Shows p (rows ++ [row]) c ↔ Shows p rows c ∨
    c.y = p.margins.top + rows.length ∧ ∃ j, c.x = p.margins.left + j ∧ row[j]? = some true := by
  have hrows (i : Nat) (row' : List Bool) : (rows ++ [row])[i]? = some row' ↔
      rows[i]? = some row' ∨ i = rows.length ∧ row' = row := by
    grind
  simp only [Shows, hrows]
  constructor
  · rintro ⟨i, j, row', hrow | ⟨rfl, rfl⟩, hj, hx, hy⟩
    · exact Or.inl ⟨i, j, row', hrow, hj, hx, hy⟩
    · exact Or.inr ⟨hy, j, hx, hj⟩
  · rintro (⟨i, j, row', hrow, hj, hx, hy⟩ | ⟨hy, j, hx, hj⟩)
    · exact ⟨i, j, row', Or.inl hrow, hj, hx, hy⟩
    · exact ⟨_, j, _, Or.inr ⟨rfl, rfl⟩, hj, hx, hy⟩

theorem coveredBy_closedRows : p.CoveredBy (closedRows rows) c ↔ Shows p rows c := by
  induction rows using List.reverseRecOn with
  | nil => simp [Shows, closedRows, not_coveredBy_nil]
  | append_singleton rows row ih =>
    rw [closedRows_concat, p.coveredBy_concat_of_ne (by simp),
      p.coveredBy_append (rowEnd_not_mem_rowTokens row), ih, rowAfter_closedRows,
      columnAfter_closedRows, shows_concat]
    simp only [getElem?_drawn_rowTokens]

theorem coveredBy_body : p.CoveredBy (body rows) c ↔ Shows p rows c := by
  rw [← coveredBy_closedRows]
  by_cases hrows : rows = []
  · rw [hrows]
    rfl
  · rw [closedRows_eq hrows, p.coveredBy_concat_of_ne (by simp)]

theorem rowAfter_body_lt (hheight : p.height = rows.length) : p.rowAfter (body rows) < side := by
  by_cases hrows : rows = []
  · rw [hrows]
    have htop : p.margins.top < side := by
      simp only [margins, Margins.top_centring, side]
      omega
    exact htop
  · have hlast := rowAfter_closedRows p rows
    have hle := p.height_le
    rw [closedRows_eq hrows, rowAfter_concat_rowEnd] at hlast
    simp only [margins, Margins.top_centring] at hlast
    have : 0 < side := by decide
    omega

theorem stop_not_mem_body (rows : List (List Bool)) : .stop ∉ body rows := by
  intro h
  rcases mem_body h with h | ⟨row, -, h⟩
  · cases h
  · exact absurd (one_le_length_rowTokens row _ h) (by decide)

theorem reaches_stop (htokens : p.tokens = body rows ++ [.stop]) : p.Reaches (body rows) .stop :=
  ⟨htokens ▸ List.prefix_rfl, stop_not_mem_body rows⟩

theorem covers_iff_shows (htokens : p.tokens = body rows ++ [.stop]) :
    p.Covers c ↔ Shows p rows c := by
  rw [covers_iff (reaches_stop htokens), coveredBy_body]

theorem Shows.inField (h : Shows p rows c) (hheight : p.height = rows.length)
    (hwidth : ∀ row ∈ rows, row.length ≤ p.width) : c.InField := by
  obtain ⟨i, j, row, hi, hj, hx, hy⟩ := h
  have hlength := hwidth row (List.mem_of_getElem? hi)
  have hi' := (List.getElem?_eq_some_iff.mp hi).1
  have hj' := (List.getElem?_eq_some_iff.mp hj).1
  have hwle := p.width_le
  have hhle := p.height_le
  simp only [margins, Margins.left_centring, Margins.top_centring] at hx hy
  exact ⟨by omega, by omega⟩

/-- Each run covers its last cell, where a row still shows a symbol. -/
theorem fits_of_rows (htokens : p.tokens = body rows ++ [.stop]) (hheight : p.height = rows.length)
    (hwidth : ∀ row ∈ rows, row.length ≤ p.width) : p.Fits := by
  refine ⟨fun before n hr => ?_, body rows, reaches_stop htokens, rowAfter_body_lt hheight⟩
  have hmem : .alive n ∈ body rows ++ [.stop] := htokens ▸ hr.1.subset (by simp)
  have hn : 1 ≤ n := by
    rcases mem_body ((List.mem_append.mp hmem).resolve_right (by simp)) with h | ⟨row, -, h⟩
    · cases h
    · exact one_le_length_rowTokens row _ h
  have hlast : p.Covers ⟨p.columnAfter before + (n - 1), p.rowAfter before⟩ :=
    ⟨before, n, hr, rfl, by simp, by simp; omega⟩
  have hx : p.columnAfter before + (n - 1) < side :=
    (((covers_iff_shows htokens).mp hlast).inField hheight hwidth).1
  omega

/-- What a document shows, symbol by symbol. -/
theorem shows_aliveIn {rows : List (List Char)} : Shows p (rows.map aliveIn) c ↔
    ∃ i j row symbol, rows[i]? = some row ∧ row[j]? = some symbol ∧ IsAliveCell symbol ∧
      c.x = p.margins.left + j ∧ c.y = p.margins.top + i := by
  simp only [Shows, aliveIn, List.getElem?_map, Option.map_eq_some_iff]
  constructor
  · rintro ⟨i, j, _, ⟨row, hi, rfl⟩, hj, hc⟩
    rw [List.getElem?_map, Option.map_eq_some_iff] at hj
    obtain ⟨symbol, hj, hsymbol⟩ := hj
    exact ⟨i, j, row, symbol, hi, hj, of_decide_eq_true hsymbol, hc⟩
  · rintro ⟨i, j, row, symbol, hi, hj, hsymbol, hc⟩
    refine ⟨i, j, _, ⟨row, hi, rfl⟩, ?_, hc⟩
    rw [List.getElem?_map, hj, Option.map_some, decide_eq_true hsymbol]

theorem layOut_of_read {lines : List (List Char)} (h : read lines = .ok p) :
    ∃ g, p.layOut = .ok g ∧ ∀ c, g.isAlive c ↔ Shows p ((rowsOf lines).map aliveIn) c := by
  obtain ⟨-, hwidth, hheight, htokens⟩ := read_eq_ok_iff.mp h
  have hheight' : p.height = ((rowsOf lines).map aliveIn).length := by
    rw [hheight, List.length_map]
  have hwidth' : ∀ row ∈ (rowsOf lines).map aliveIn, row.length ≤ p.width := by
    rw [List.forall_mem_map, hwidth]
    intro row hrow
    rw [aliveIn, List.length_map]
    exact length_le_longest hrow
  obtain ⟨g, hg⟩ := exists_layOut_eq_ok_iff.mpr (fits_of_rows htokens hheight' hwidth')
  refine ⟨g, hg, fun c => ?_⟩
  have hcells := (layOut_eq_ok_iff.mp hg).2
  constructor
  · intro hc
    exact (covers_iff_shows htokens).mp ((hcells c (Grid.inField_of_isAlive hc)).mp hc)
  · intro hc
    exact (hcells c (hc.inField hheight' hwidth')).mpr ((covers_iff_shows htokens).mpr hc)

theorem exists_emit_of_read {text : String} (h : Format.plaintext.read text = .ok p)
    (settings : Settings) (name : String) :
    ∃ m, (Source.mk name .plaintext text).emit settings = .ok m := by
  obtain ⟨g, hg, -⟩ := layOut_of_read h
  have hlookup : (Source.mk name .plaintext text).lookup =
      .ok ⟨Verilog.identifierOf name, g, Verilog.isIdentifier_identifierOf name⟩ :=
    Source.lookup_eq_ok_iff.mpr ⟨Source.grid_eq_ok_iff.mpr ⟨p, h, hg⟩, rfl⟩
  exact ⟨_, Source.emit_eq_ok_iff.mpr ⟨_, hlookup, rfl⟩⟩

variable {text : String}

/-- A document of cells that is no larger than the field is drawn cell for cell into the middle of
the field, and under any name it is emitted. -/
theorem read_layOut_cells
    (hcells : ∀ row ∈ rowsOf (Text.lines text.toList), ∀ c ∈ row, c ∈ ['O', '*', '.'])
    (hwidth : longest (rowsOf (Text.lines text.toList)) ≤ side)
    (hheight : (rowsOf (Text.lines text.toList)).length ≤ side) :
    (∃ p g, Format.plaintext.read text = .ok p ∧
      p.width = longest (rowsOf (Text.lines text.toList)) ∧
      p.height = (rowsOf (Text.lines text.toList)).length ∧ p.layOut = .ok g ∧
      ∀ c, g.isAlive c ↔ ∃ i j row symbol, (rowsOf (Text.lines text.toList))[i]? = some row ∧
        row[j]? = some symbol ∧ symbol ∈ ['O', '*'] ∧
        c.x = (side - p.width) / 2 + j ∧ c.y = (side - p.height) / 2 + i) ∧
    ∀ settings name, ∃ m, (Source.mk name .plaintext text).emit settings = .ok m := by
  have hread : Format.plaintext.read text = .ok ⟨_, _,
      body ((rowsOf (Text.lines text.toList)).map aliveIn) ++ [.stop], hwidth, hheight⟩ :=
    read_eq_ok_iff.mpr ⟨hcells, rfl, rfl, rfl⟩
  obtain ⟨g, hg, halive⟩ := layOut_of_read hread
  exact ⟨⟨_, g, hread, rfl, rfl, hg, fun c => (halive c).trans shows_aliveIn⟩,
    exists_emit_of_read hread⟩

/-- Ragged rows around an empty one, under a name that is a keyword. -/
theorem read_layOut_cells_ragged :
    let text := "!ragged\nO.\n\n.*O"
    rowsOf (Text.lines text.toList) = ["O.".toList, [], ".*O".toList] ∧
      (∃ p g, Format.plaintext.read text = .ok p ∧ p.width = 3 ∧ p.height = 3 ∧
        p.layOut = .ok g ∧ g.isAlive ⟨23, 23⟩ ∧ ¬ g.isAlive ⟨24, 23⟩ ∧ g.isAlive ⟨25, 25⟩) ∧
      ∃ m, (Source.mk "wire" .plaintext text).emit {} = .ok m := by
  intro text
  have hrows : rowsOf (Text.lines text.toList) = ["O.".toList, [], ".*O".toList] := by
    decide
  obtain ⟨⟨p, g, hread, hwidth, hheight, hlayOut, hcells⟩, hemit⟩ :=
    @read_layOut_cells text (by rw [hrows]; simp) (by rw [hrows]; decide)
      (by rw [hrows]; decide)
  rw [hrows] at hwidth hheight
  have hw : p.width = 3 := hwidth
  have hh : p.height = 3 := hheight
  simp only [hrows, hw, hh, side] at hcells
  refine ⟨hrows, ⟨p, g, hread, hw, hh, hlayOut, ?_, ?_, ?_⟩, hemit {} "wire"⟩
  · exact (hcells _).mpr ⟨0, 0, _, 'O', rfl, rfl, by decide, rfl, rfl⟩
  · intro h
    obtain ⟨i, j, row, symbol, hi, hj, hsymbol, hx, hy⟩ := (hcells _).mp h
    dsimp only at hx hy
    obtain rfl : i = 0 := by omega
    obtain rfl : j = 1 := by omega
    cases hi
    cases hj
    revert hsymbol
    decide
  · exact (hcells _).mpr ⟨2, 2, _, 'O', rfl, rfl, by decide, rfl, rfl⟩

end Plaintext

end LifeRom
