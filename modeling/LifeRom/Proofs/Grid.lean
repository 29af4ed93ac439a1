import Mathlib.Data.List.Dedup
import Mathlib.Data.List.Induction
import LifeRom.Grid

/-! # Grids and their cells

The rows of a grid hold the cells that it lists column by column, in another order. So it has as
many alive cells as it lists, and it is made again from that list.
-/

namespace LifeRom

theorem Cell.Before.ne {c d : Cell} (h : c.Before d) : c ≠ d := by
  rintro rfl
  unfold Before at h
  omega

theorem pairwise_fieldCells : fieldCells.Pairwise Cell.Before := by
  rw [fieldCells, List.pairwise_flatMap]
  constructor
  · intro x _
    rw [List.pairwise_map]
    exact List.pairwise_lt_range.imp fun hy => Or.inr ⟨rfl, hy⟩
  · refine List.pairwise_lt_range.imp fun hx c hc d hd => Or.inl ?_
    obtain ⟨y, -, rfl⟩ := List.mem_map.mp hc
    obtain ⟨z, -, rfl⟩ := List.mem_map.mp hd
    exact hx

theorem nodup_fieldCells : fieldCells.Nodup :=
  pairwise_fieldCells.imp Cell.Before.ne

def Cell.transpose (c : Cell) : Cell := ⟨c.y, c.x⟩

theorem Cell.transpose_injective : Function.Injective Cell.transpose := by
  rintro ⟨x, y⟩ ⟨x', y'⟩ h
  cases h
  rfl

theorem perm_map_transpose_fieldCells : (fieldCells.map Cell.transpose).Perm fieldCells := by
  have hnodup := nodup_fieldCells.map Cell.transpose_injective
  apply (List.perm_ext_iff_of_nodup hnodup nodup_fieldCells).mpr
  intro c
  rw [List.mem_map, mem_fieldCells]
  constructor
  · rintro ⟨d, hd, rfl⟩
    exact (mem_fieldCells.mp hd).symm
  · intro hc
    exact ⟨c.transpose, mem_fieldCells.mpr hc.symm, rfl⟩

theorem toList_eq_map_range {α : Type} {n : Nat} {v : Vector α n} {f : Nat → α}
    (h : ∀ i (hi : i < n), v[i] = f i) : v.toList = (List.range n).map f := by
  apply List.ext_getElem
  · simp
  · intro i hi hi'
    simpa using h i (by simpa using hi)

namespace Grid

variable {g : Grid} {cells : List Cell} {c : Cell} {e : Fault}

theorem pairwise_aliveCells (g : Grid) : g.aliveCells.Pairwise Cell.Before :=
  pairwise_fieldCells.filter _

theorem nodup_aliveCells (g : Grid) : g.aliveCells.Nodup :=
  nodup_fieldCells.filter _

theorem isAlive_iff : g.isAlive c ↔ ∃ h : c.InField, g.get c h = true := by
  constructor
  · intro hc
    have h := inField_of_isAlive hc
    exact ⟨h, by rwa [← isAlive_eq h]⟩
  · rintro ⟨h, hc⟩
    rwa [isAlive_eq h]

theorem flatMap_rows (g : Grid) :
    g.rows.toList.flatMap Vector.toList = (fieldCells.map Cell.transpose).map g.isAlive := by
  have hrows : (g.rows.map Vector.toList).toList =
      (List.range side).map fun y => (List.range side).map fun x => g.isAlive ⟨x, y⟩ := by
    apply toList_eq_map_range
    intro y hy
    rw [Vector.getElem_map]
    apply toList_eq_map_range
    intro x hx
    exact (isAlive_eq (c := ⟨x, y⟩) ⟨hx, hy⟩).symm
  rw [List.flatMap_def, ← Vector.toList_map, hrows]
  simp [fieldCells, List.flatMap_def, List.map_flatten, Function.comp_def, Cell.transpose]

theorem population_eq_length (g : Grid) : g.population = g.aliveCells.length :=
  calc g.population
    _ = ((fieldCells.map Cell.transpose).map g.isAlive).count true := by
      rw [population, flatMap_rows]
    _ = (fieldCells.map Cell.transpose).countP g.isAlive := by
      simp [List.count_eq_countP, List.countP_map, Function.comp_def]
    _ = fieldCells.countP g.isAlive := perm_map_transpose_fieldCells.countP_eq _
    _ = g.aliveCells.length := List.countP_eq_length_filter

theorem population_eq_of_nodup (hnodup : cells.Nodup) (h : ∀ c, c ∈ cells ↔ g.isAlive c) :
    g.population = cells.length := by
  rw [population_eq_length]
  apply List.Perm.length_eq
  apply (List.perm_ext_iff_of_nodup g.nodup_aliveCells hnodup).mpr
  intro c
  rw [mem_aliveCells, h]

theorem ofCells_concat (cells : List Cell) (c : Cell) :
    ofCells (cells ++ [c]) = ofCells cells >>= fun g =>
      if h : c.InField then .ok (g.revive c h) else .error (.outsideField c.y c.x) := by
  simp [ofCells, List.foldlM_append]

theorem ofCells_cases (cells : List Cell) :
    (∃ c, cells.find? (fun c => ¬ c.InField) = some c ∧
        ofCells cells = .error (.outsideField c.y c.x)) ∨
      (∀ c ∈ cells, c.InField) ∧ ∃ g, ofCells cells = .ok g ∧ ∀ c, g.isAlive c ↔ c ∈ cells := by
  induction cells using List.reverseRecOn with
  | nil => exact Or.inr ⟨List.forall_mem_nil _, blank, rfl, by simp⟩
  | append_singleton cells c ih =>
    rw [ofCells_concat]
    rcases ih with ⟨d, hd, he⟩ | ⟨hcells, g, hg, halive⟩
    · exact Or.inl ⟨d, by rw [List.find?_append, hd]; rfl, by rw [he]; rfl⟩
    · rw [hg]
      by_cases hc : c.InField
      · refine Or.inr ⟨by simpa [or_imp, forall_and] using ⟨hcells, hc⟩, g.revive c hc, ?_, ?_⟩
        · exact dif_pos hc
        · intro d
          simp [halive, or_comm]
      · have hnone : cells.find? (fun c => ¬ c.InField) = none := by simpa using hcells
        refine Or.inl ⟨c, ?_, dif_neg hc⟩
        rw [List.find?_append, hnone]
        simp [hc]

theorem ofCells_eq_ok_iff :
    ofCells cells = .ok g ↔ (∀ c ∈ cells, c.InField) ∧ ∀ c, g.isAlive c ↔ c ∈ cells := by
  rcases ofCells_cases cells with ⟨c, hc, he⟩ | ⟨hcells, g', hg', halive⟩
  · have hout : ¬ c.InField := by simpa using List.find?_some hc
    rw [he]
    constructor
    · intro h; cases h
    · rintro ⟨hcells, -⟩
      exact absurd (hcells c (List.mem_of_find?_eq_some hc)) hout
  · rw [hg', Except.ok.injEq]
    constructor
    · rintro rfl; exact ⟨hcells, halive⟩
    · rintro ⟨-, h⟩
      ext c
      rw [Bool.eq_iff_iff, halive, h]

theorem ofCells_eq_error_iff :
    ofCells cells = .error e ↔
      ∃ c, cells.find? (fun c => ¬ c.InField) = some c ∧ e = .outsideField c.y c.x := by
  rcases ofCells_cases cells with ⟨c, hc, he⟩ | ⟨hcells, g, hg, -⟩
  · rw [he, hc]
    simp [eq_comm]
  · have hnone : cells.find? (fun c => ¬ c.InField) = none := by simpa using hcells
    rw [hg, hnone]
    simp

theorem ofCells_aliveCells (g : Grid) : ofCells g.aliveCells = .ok g := by
  refine ofCells_eq_ok_iff.mpr ⟨fun c hc => ?_, fun c => mem_aliveCells.symm⟩
  exact inField_of_isAlive (mem_aliveCells.mp hc)

theorem get_of_ofCells (h : ofCells cells = .ok g) (c : Cell) (hc : c.InField) :
    g.get c hc = decide (c ∈ cells) := by
  rw [← isAlive_eq hc, Bool.eq_iff_iff, decide_eq_true_iff]
  exact (ofCells_eq_ok_iff.mp h).2 c

theorem eq_iff_of_ofCells {g' : Grid} {cells' : List Cell} (h : ofCells cells = .ok g)
    (h' : ofCells cells' = .ok g') : g = g' ↔ ∀ c, c ∈ cells ↔ c ∈ cells' := by
  have halive := (ofCells_eq_ok_iff.mp h).2
  have halive' := (ofCells_eq_ok_iff.mp h').2
  constructor
  · rintro rfl c
    exact (halive c).symm.trans (halive' c)
  · intro hcells
    ext c
    rw [Bool.eq_iff_iff, halive, halive', hcells]

/-- Cells make a grid unless one of them lies outside the field. The grid lists them once each, and
two lists make the same grid just if they have the same cells. -/
theorem ofCells_exact (cells : List Cell) :
    ((∃ e, ofCells cells = .error e) ↔ ∃ c ∈ cells, side ≤ c.x ∨ side ≤ c.y) ∧
      (∀ e, ofCells cells = .error e ↔
        ∃ c, cells.find? (fun c => ¬ c.InField) = some c ∧ e = .outsideField c.y c.x) ∧
      (∀ g, ofCells cells = .ok g →
        g.aliveCells.Pairwise Cell.Before ∧ (∀ c, c ∈ g.aliveCells ↔ c ∈ cells) ∧
          g.population = cells.dedup.length ∧
          (∀ c (h : c.InField), g.get c h = decide (c ∈ cells)) ∧
          ∀ cells' g', ofCells cells' = .ok g' → (g = g' ↔ ∀ c, c ∈ cells ↔ c ∈ cells')) ∧
      ∀ g, ofCells g.aliveCells = .ok g := by
  refine ⟨?_, fun e => ofCells_eq_error_iff, fun g hg => ?_, ofCells_aliveCells⟩
  · have hfind : (∃ e, ofCells cells = .error e) ↔
        ∃ c, cells.find? (fun c => ¬ c.InField) = some c := by
      simp [ofCells_eq_error_iff]
    rw [hfind, ← Option.isSome_iff_exists, List.find?_isSome]
    simp [Cell.InField, imp_iff_not_or]
  · have hcells := (ofCells_eq_ok_iff.mp hg).2
    refine ⟨g.pairwise_aliveCells, fun c => mem_aliveCells.trans (hcells c), ?_,
      get_of_ofCells hg, fun cells' g' hg' => eq_iff_of_ofCells hg hg'⟩
    exact population_eq_of_nodup cells.nodup_dedup fun c => List.mem_dedup.trans (hcells c).symm

/-- A cell listed twice, the same cells in another order, and two cells outside. -/
theorem ofCells_exact_repeated :
    ∃ g, ofCells [⟨49, 0⟩, ⟨0, 49⟩, ⟨49, 0⟩] = .ok g ∧ g.population = 2 ∧
      ofCells [⟨0, 49⟩, ⟨49, 0⟩] = .ok g ∧
      ofCells [⟨49, 0⟩, ⟨50, 7⟩, ⟨0, 51⟩] = .error (.outsideField 7 50) := by
  obtain ⟨-, -, hmade, -⟩ := ofCells_exact [⟨49, 0⟩, ⟨0, 49⟩, ⟨49, 0⟩]
  obtain ⟨-, -, hpopulation, -, hsame⟩ := hmade _ rfl
  refine ⟨_, rfl, hpopulation.trans (by decide), ?_, ?_⟩
  · have hcells (c : Cell) : c ∈ [⟨49, 0⟩, ⟨0, 49⟩, ⟨49, 0⟩] ↔ c ∈ [⟨0, 49⟩, ⟨49, 0⟩] := by
      grind
    rw [(hsame [⟨0, 49⟩, ⟨49, 0⟩] _ rfl).mpr hcells]
    rfl
  · exact ((ofCells_exact _).2.1 _).mpr ⟨⟨50, 7⟩, rfl, rfl⟩

end Grid

end LifeRom
