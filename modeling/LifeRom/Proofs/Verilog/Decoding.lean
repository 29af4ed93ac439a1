import LifeRom.Proofs.Verilog.Composite

/-! # Composites determine their look-ups -/

namespace LifeRom

theorem Grid.aliveCells_inj {g g' : Grid} : g.aliveCells = g'.aliveCells ↔ g = g' := by
  constructor
  · intro h
    ext c
    rw [Bool.eq_iff_iff, ← mem_aliveCells, h, mem_aliveCells]
  · rintro rfl
    rfl

namespace Verilog

variable {s s' : Settings} {text : String}

theorem Lookup.eq_of_toSection {l l' : Lookup} (h : l.toSection s = l'.toSection s') : l = l' := by
  have hname : l.name = l'.name := String.toList_inj.mp (congrArg Section.name h)
  have harms := congrArg Section.arms h
  rw [arms_toSection, arms_toSection] at harms
  have hcells : l.grid.aliveCells = l'.grid.aliveCells :=
    (List.map_inj_right fun _ _ e => by injection e).mp (List.append_cancel_right harms)
  rcases l with ⟨name, grid, hl⟩
  rcases l' with ⟨name', grid', hl'⟩
  obtain rfl : name = name' := hname
  obtain rfl : grid = grid' := Grid.aliveCells_inj.mp hcells
  rfl

theorem eq_of_map_toSection {ls ls' : List Lookup}
    (h : ls.map (·.toSection s) = ls'.map (·.toSection s')) : ls = ls' := by
  induction ls generalizing ls' with
  | nil =>
    rw [List.map_nil, eq_comm, List.map_eq_nil_iff] at h
    exact h.symm
  | cons l ls ih =>
    obtain ⟨l', ls', rfl, hl, hls⟩ := List.map_eq_cons_iff.mp h.symm
    rw [Lookup.eq_of_toSection hl.symm, ih hls.symm]

/-- A composite is written from one list of look-ups and under one name only. -/
theorem compose_determines {ls ls' : List Lookup}
    (h : compose s (ls.map (·.emit s)) = .ok text)
    (h' : compose s' (ls'.map (·.emit s')) = .ok text) :
    ls = ls' ∧ s.selectorName = s'.selectorName := by
  have hsections := (blocks_of_compose h).ofLines_eq.symm.trans (blocks_of_compose h').ofLines_eq
  obtain ⟨hls, hselector⟩ := List.append_inj' hsections rfl
  refine ⟨eq_of_map_toSection hls, String.toList_inj.mp ?_⟩
  exact congrArg Section.name (List.singleton_inj.mp hselector)

/-- Two modules under one name, with cells that were listed in two orders. -/
theorem compose_determines_reordered :
    let s : Settings := { selectorName := "pick", indent := 0 }
    let s' : Settings := { selectorName := "pick", indent := 0, workers := 8 }
    ∃ l l' : Lookup, Grid.ofCells [⟨3, 4⟩, ⟨0, 49⟩] = .ok l.grid ∧
      Grid.ofCells [⟨0, 49⟩, ⟨3, 4⟩, ⟨0, 49⟩] = .ok l'.grid ∧
      ∃ text, compose s ([l, l].map (·.emit s)) = .ok text ∧
        compose s' ([l', l'].map (·.emit s')) = .ok text ∧ [l, l] = [l', l'] := by
  intro s s'
  let l : Lookup := ⟨"dot", (Grid.blank.revive ⟨3, 4⟩ (by decide)).revive ⟨0, 49⟩ (by decide),
    by decide +kernel⟩
  let l' : Lookup := ⟨"dot", ((Grid.blank.revive ⟨0, 49⟩ (by decide)).revive ⟨3, 4⟩
    (by decide)).revive ⟨0, 49⟩ (by decide), by decide +kernel⟩
  have hcells : l.grid.aliveCells = l'.grid.aliveCells := List.filter_congr fun c _ => by
    simp only [l, l', Grid.isAlive_revive, Grid.isAlive_blank]
    grind
  have hemit : l.emit s = l'.emit s' := by
    simp only [Lookup.emit, Lookup.lines, hcells]
    rfl
  obtain ⟨text, h⟩ : ∃ text, compose s ([l, l].map (·.emit s)) = .ok text :=
    ⟨_, compose_eq_ok_iff.mpr ⟨by decide +kernel, by decide +kernel, by decide +kernel, rfl⟩⟩
  have h' : compose s' ([l', l'].map (·.emit s')) = .ok text := by
    rw [List.map_cons, List.map_singleton, ← hemit]
    exact h
  exact ⟨l, l', rfl, rfl, text, h, h', (compose_determines h h').1⟩

end Verilog

end LifeRom
