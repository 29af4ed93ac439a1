import LifeRom.Proofs.Grid
import LifeRom.Proofs.Verilog.Emission

/-! # The table of a module

Among the lines of an emitted look-up only those of its case statement read as arms.
-/

namespace LifeRom.Verilog

open Text

namespace Arm

def ofText (text : String) : List Arm :=
  (lines text.toList).filterMap ofLine?

theorem ofLine?_eq_none {line : List Char} {c : Char} (h : (unindent line).head? = some c)
    (hc : c ∉ ['d', '{']) : ofLine? line = none := by
  obtain ⟨cs, hcs⟩ := List.head?_eq_some_iff.mp h
  have hline : line.dropWhile (· == ' ') = c :: cs := hcs
  simp only [List.mem_cons, List.not_mem_nil, or_false, not_or] at hc
  have hdefault : after? "default: alive_out = ".toList (c :: cs) = none :=
    after?_eq_none (by simpa using fun e => absurd e.symm hc.1)
  have hcell : cell? (c :: cs) = none := by
    rw [cell?, after?_eq_none (by simpa using fun e => absurd e.symm hc.2)]
    rfl
  rw [ofLine?, hline, hdefault, hcell]

theorem filterMap_frame (s : Settings) (name first : String) (entries : List Entry) :
    ((frame s name first entries).map String.toList).filterMap ofLine? =
      (Section.ofEntries name entries).arms := by
  have hopening : ofLine? (opening name first).toList = none :=
    ofLine?_eq_none (c := 'm') (by simp [opening, unindent]) (by decide)
  have hend : ofLine? "endmodule".toList = none := by decide
  have hguards : ofLine? "`default_nettype none".toList = none ∧
      ofLine? "`default_nettype wire".toList = none := by
    decide
  have hmodule : ((opening name first :: (entries.map Entry.text ++ ["endmodule"])).map
      String.toList).filterMap ofLine? = (Section.ofEntries name entries).arms := by
    simp only [List.map_cons, List.map_append, List.map_nil, List.map_map,
      List.filterMap_cons_none hopening, List.filterMap_append, List.filterMap_cons_none hend,
      List.filterMap_nil, List.append_nil]
    rfl
  rw [frame, Settings.guarded]
  split
  · rw [List.cons_append, List.map_cons, List.filterMap_cons_none hguards.1, List.map_append,
      List.filterMap_append, hmodule, List.map_singleton, List.filterMap_cons_none hguards.2,
      List.filterMap_nil, List.append_nil]
  · exact hmodule

theorem matches_cell_iff {c d : Cell} (hc : c.InField) (v : Bool) :
    (cell c v).Matches d.x d.y ↔ c = d := by
  have hside := side_le_coordRange
  rw [Matches, Nat.mod_eq_of_lt (hc.1.trans_le hside), Nat.mod_eq_of_lt (hc.2.trans_le hside)]
  rcases c with ⟨x, y⟩
  rcases d with ⟨x', y'⟩
  rw [Cell.mk.injEq]

theorem evaluate_cons_of_pos {a : Arm} {x y : Nat} (h : a.Matches x y) (arms : List Arm) :
    evaluate (a :: arms) x y = some a.value := by
  rw [evaluate, List.find?_cons_of_pos (by simpa using h), Option.map_some]

theorem evaluate_cons_of_neg {a : Arm} {x y : Nat} (h : ¬ a.Matches x y) (arms : List Arm) :
    evaluate (a :: arms) x y = evaluate arms x y := by
  rw [evaluate, List.find?_cons_of_neg (by simpa using h), evaluate]

theorem evaluate_map_cell {cells : List Cell} (h : ∀ c ∈ cells, c.InField) (d : Cell) :
    evaluate (cells.map (cell · true) ++ [default false]) d.x d.y = some (decide (d ∈ cells)) := by
  induction cells with
  | nil => rfl
  | cons c cells ih =>
    rw [List.forall_mem_cons] at h
    rw [List.map_cons, List.cons_append]
    by_cases hd : c = d
    · rw [evaluate_cons_of_pos ((matches_cell_iff h.1 true).mpr hd)]
      simp [hd, value]
    · rw [evaluate_cons_of_neg (mt (matches_cell_iff h.1 true).mp hd), ih h.2]
      simp [Ne.symm hd]

end Arm

namespace Lookup

theorem ofText_emit (s : Settings) (l : Lookup) :
    Arm.ofText (l.emit s).text = l.grid.aliveCells.map (Arm.cell · true) ++ [.default false] := by
  rw [Arm.ofText, emit, guarded_lines, lines_unlines (l.isLine_frame s), Arm.filterMap_frame]
  exact l.arms_toSection s

theorem evaluate_aliveCells (g : Grid) (c : Cell) :
    Arm.evaluate (g.aliveCells.map (Arm.cell · true) ++ [.default false]) c.x c.y =
      some (if h : c.InField then g.get c h else false) := by
  have hfield : ∀ d ∈ g.aliveCells, d.InField := fun d hd =>
    Grid.inField_of_isAlive (Grid.mem_aliveCells.mp hd)
  rw [Arm.evaluate_map_cell hfield]
  congr 1
  rw [Bool.eq_iff_iff, decide_eq_true_iff, Grid.mem_aliveCells, Grid.isAlive_iff]
  split <;> simp [*]

/-- A grid under a legal name is emitted as a table that lists its alive cells once each, column by
column, with the default arm below them, and that answers everywhere with the grid. -/
theorem table_exact {name : String} (h : isIdentifier name = true) (grid : Grid) :
    ∃ l, ofGrid name grid = .ok l ∧
      grid.aliveCells.Pairwise Cell.Before ∧
      (∀ c, c ∈ grid.aliveCells ↔ ∃ hc : c.InField, grid.get c hc = true) ∧
      ∀ settings : Settings,
        Arm.ofText (l.emit settings).text =
          grid.aliveCells.map (Arm.cell · true) ++ [.default false] ∧
        ∀ x y : BitVec coordBits,
          Arm.evaluate (Arm.ofText (l.emit settings).text) x.toNat y.toNat =
            some (if hc : Cell.InField ⟨x.toNat, y.toNat⟩ then grid.get ⟨x.toNat, y.toNat⟩ hc
              else false) := by
  refine ⟨⟨name, grid, h⟩, ofGrid_eq_ok_iff.mpr ⟨rfl, rfl⟩, grid.pairwise_aliveCells,
    fun c => Grid.mem_aliveCells.trans Grid.isAlive_iff, fun settings => ?_⟩
  have harms := ofText_emit settings ⟨name, grid, h⟩
  refine ⟨harms, fun x y => ?_⟩
  rw [harms]
  exact evaluate_aliveCells grid ⟨x.toNat, y.toNat⟩

/-- One cell in a corner of the field, and answers beside it and outside the field. -/
theorem table_exact_corner :
    ∃ grid l, Grid.ofCells [⟨49, 0⟩] = .ok grid ∧ ofGrid "corner" grid = .ok l ∧
      (let arms := Arm.ofText (l.emit { indent := 0, guardNets := false }).text
      Arm.evaluate arms 49 0 = some true ∧ Arm.evaluate arms 0 49 = some false ∧
        Arm.evaluate arms 50 0 = some false ∧ Arm.evaluate arms 63 63 = some false) := by
  have hname : isIdentifier "corner" = true := by decide +kernel
  obtain ⟨l, hl, -, -, htable⟩ := table_exact hname (Grid.blank.revive ⟨49, 0⟩ (by decide))
  have answers := (htable { indent := 0, guardNets := false }).2
  refine ⟨_, l, rfl, hl, (answers 49 0).trans ?_, (answers 0 49).trans ?_, (answers 50 0).trans ?_,
    (answers 63 63).trans ?_⟩ <;> decide

end Lookup

end LifeRom.Verilog
