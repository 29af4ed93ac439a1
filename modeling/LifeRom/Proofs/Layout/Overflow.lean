import LifeRom.Format
import LifeRom.Proofs.Layout.Drawing

/-! # Where a pattern leaves the field

A layout that leaves the field is refused with the first cell outside, row by row from the left. Of
a run that starts below the lower edge and goes past the right edge the corner is named instead.
-/

namespace LifeRom

/-- The order of rows from top to bottom, and of the cells of a row from left to right. -/
def Cell.Precedes (c d : Cell) : Prop := c.y < d.y ∨ c.y = d.y ∧ c.x < d.x

namespace Pattern

variable (p : Pattern) {before l : List Token} {t u : Token} {c d : Cell} {row column : Nat}

/-- The column to which the token behind `before` expands its row. -/
def extent (before : List Token) : Token → Nat
  | .dead _ => 0
  | .alive n => p.columnAfter before + n
  | .rowEnd | .stop => side

/-- Some token expands its row over the cell. -/
def Expands (c : Cell) : Prop :=
  ∃ before t, p.Reaches before t ∧ c.y = p.rowAfter before ∧ c.x < p.extent before t

/-- The first cell outside the field over which the pattern expands. -/
structure FirstOutside (c : Cell) : Prop where
  expands : p.Expands c
  outside : ¬ c.InField
  first : ∀ d, p.Expands d → ¬ d.InField → d = c ∨ c.Precedes d

variable {p}

theorem FirstOutside.unique (hc : p.FirstOutside c) (hd : p.FirstOutside d) : c = d := by
  rcases hc.first d hd.expands hd.outside with h | h
  · exact h.symm
  · rcases hd.first c hc.expands hc.outside with h' | h'
    · exact h'
    · unfold Cell.Precedes at h h'
      omega

theorem extent_le_side (h : p.faultAt? before t = none) : p.extent before t ≤ side := by
  cases t with
  | dead n => exact Nat.zero_le side
  | alive n =>
    simp only [faultAt?, ite_eq_right_iff, reduceCtorEq, imp_false] at h
    exact Nat.le_of_not_lt h
  | rowEnd | stop => exact Nat.le_refl side

theorem faultAt?_eq_outsideField (h : p.faultAt? before t = some (.outsideField row column)) :
    p.rowAfter before = row ∧
      ((∃ n, t = .alive n ∧ side < p.columnAfter before + n ∧ column = side) ∨
        p.extent before t = side ∧ row = side ∧ column = 0) := by
  cases t with
  | dead n => cases h
  | alive n =>
    simp only [faultAt?, Option.ite_none_right_eq_some, Option.some.injEq,
      Fault.outsideField.injEq] at h
    obtain ⟨hn, hrow, hcolumn⟩ := h
    exact ⟨hrow, Or.inl ⟨n, rfl, hn, hcolumn.symm⟩⟩
  | rowEnd | stop =>
    simp only [faultAt?, Option.ite_none_right_eq_some, Option.some.injEq,
      Fault.outsideField.injEq] at h
    obtain ⟨hrow, rfl, rfl⟩ := h
    exact ⟨hrow, Or.inr ⟨rfl, rfl, rfl⟩⟩

theorem rowAfter_le_side (h : p.Faultless before) : p.rowAfter before ≤ side := by
  induction before using List.reverseRecOn with
  | nil =>
    rw [rowAfter_nil, margins, Margins.top_centring]
    omega
  | append_singleton before t ih =>
    obtain ⟨hbefore, ht⟩ := faultless_concat.mp h
    have hle := ih hbefore
    by_cases hend : t = .rowEnd
    · subst hend
      simp only [faultAt?, ite_eq_right_iff, reduceCtorEq, imp_false] at ht
      rw [rowAfter_concat_rowEnd]
      omega
    · rwa [p.rowAfter_concat hend]

theorem inField_of_expands (hr : p.Reaches before t) (hf : p.Faultless before)
    (hc : p.Expands c) (hlt : c.y < p.rowAfter before) : c.InField := by
  obtain ⟨l, u, hl, hy, hx⟩ := hc
  have hside := rowAfter_le_side hf
  rcases hr.compare hl with ⟨rfl, rfl⟩ | hlater | hearlier
  · omega
  · have := p.rowAfter_mono ((List.prefix_append _ _).trans hlater)
    omega
  · exact ⟨hx.trans_le (extent_le_side (hf l u hearlier)), by omega⟩

/-- In its own row the first cell outside is that behind the right edge, and below the lower edge
the first of the row. -/
theorem firstOutside_of_faultless (hr : p.Reaches before t) (hf : p.Faultless before)
    (hrow : p.rowAfter before = row)
    (ht : side < p.extent before t ∨ row = side ∧ 0 < p.extent before t) :
    p.FirstOutside ⟨if row = side then 0 else side, row⟩ where
  expands := by
    refine ⟨before, t, hr, hrow.symm, ?_⟩
    dsimp only
    split <;> omega
  outside := by
    rintro ⟨hx, hy⟩
    dsimp only at hx hy
    split at hx <;> omega
  first := by
    intro d hd hout
    have hy : row ≤ d.y := by
      by_contra hlt
      exact hout (inField_of_expands hr hf hd (by omega))
    have hx : d.y = row → (if row = side then 0 else side) ≤ d.x := by
      intro hdy
      split
      · exact Nat.zero_le _
      · by_contra hlt
        have := rowAfter_le_side hf
        exact hout ⟨by omega, by omega⟩
    rcases d with ⟨x, y⟩
    rcases Nat.lt_or_eq_of_le hy with hlt | rfl
    · exact Or.inr (Or.inl hlt)
    · rcases Nat.lt_or_eq_of_le (hx rfl) with hlt | heq
      · exact Or.inr (Or.inr ⟨rfl, hlt⟩)
      · exact Or.inl (by rw [heq])

theorem firstOutside_of_layOut (h : p.layOut = .error (.outsideField row column)) :
    p.FirstOutside ⟨if row = side then 0 else side, row⟩ ∧ row ≤ side ∧
      ((∃ before n, p.Reaches before (.alive n) ∧ p.rowAfter before = row ∧
          side < p.columnAfter before + n ∧ column = side) ∨
        row = side ∧ column = 0) := by
  rcases layOut_eq_error_iff.mp h with ⟨before, t, hr, hf, ht⟩ | ⟨-, -, he⟩
  · obtain ⟨hrow, hplace⟩ := faultAt?_eq_outsideField ht
    have hle : row ≤ side := hrow ▸ rowAfter_le_side hf
    rcases hplace with ⟨n, rfl, hn, hcolumn⟩ | ⟨hextent, hlast, hcolumn⟩
    · exact ⟨firstOutside_of_faultless hr hf hrow (Or.inl hn), hle,
        Or.inl ⟨before, n, hr, hrow, hn, hcolumn⟩⟩
    · have hpos : 0 < p.extent before t := hextent ▸ by decide
      exact ⟨firstOutside_of_faultless hr hf hrow (Or.inr ⟨hlast, hpos⟩), hle,
        Or.inr ⟨hlast, hcolumn⟩⟩
  · cases he

/-- A layout that leaves the field is refused with the first cell outside, unless an alive run goes
past the right edge below the last row; then the corner behind that cell is named. -/
theorem overflow_location (h : p.layOut = .error (.outsideField row column)) :
    (row < side ∧ column = side ∨ row = side ∧ column = 0) ∧ p.FirstOutside ⟨column, row⟩ ∨
      (row = side ∧ column = side) ∧ p.FirstOutside ⟨0, side⟩ ∧
        ∃ before n, p.Reaches before (.alive n) ∧ p.rowAfter before = side ∧
          side < p.columnAfter before + n := by
  obtain ⟨hfirst, hle, ⟨before, n, hr, hrow, hn, rfl⟩ | ⟨rfl, rfl⟩⟩ := firstOutside_of_layOut h
  · rcases Nat.lt_or_eq_of_le hle with hlt | rfl
    · rw [if_neg hlt.ne] at hfirst
      exact Or.inl ⟨Or.inl ⟨hlt, rfl⟩, hfirst⟩
    · rw [if_pos rfl] at hfirst
      exact Or.inr ⟨⟨rfl, rfl⟩, hfirst, before, n, hr, hrow, hn⟩
  · rw [if_pos rfl] at hfirst
    exact Or.inl ⟨Or.inr ⟨rfl, rfl⟩, hfirst⟩

/-- A dead run past the right edge and an alive cell behind it. -/
theorem overflow_location_right_edge :
    ∃ p, Format.rle.read "x = 50, y = 2\no60b$60bo!" = .ok p ∧
      p.layOut = .error (.outsideField 25 50) ∧ p.FirstOutside ⟨50, 25⟩ := by
  let p : Pattern := ⟨50, 2, [.alive 1, .dead 60, .rowEnd, .dead 60, .alive 1, .stop], by decide,
    by decide⟩
  have hread : Format.rle.read "x = 50, y = 2\no60b$60bo!" = .ok p := by decide +kernel
  have h : p.layOut = .error (.outsideField 25 50) := by decide +kernel
  rcases overflow_location h with ⟨-, hfirst⟩ | ⟨⟨hrow, -⟩, -⟩
  · exact ⟨p, hread, h, hfirst⟩
  · cases hrow

/-- A run below the last row that goes past the right edge: the corner is named, and it is not the
first cell outside. -/
theorem overflow_names_corner :
    ∃ p, Format.rle.read "x = 50, y = 50\n50$51o!" = .ok p ∧
      p.layOut = .error (.outsideField 50 50) ∧
      p.FirstOutside ⟨0, 50⟩ ∧ ¬ p.FirstOutside ⟨50, 50⟩ := by
  let p : Pattern := ⟨50, 50, List.replicate 50 .rowEnd ++ [.alive 51, .stop], by decide, by decide⟩
  have hread : Format.rle.read "x = 50, y = 50\n50$51o!" = .ok p := by decide +kernel
  have h : p.layOut = .error (.outsideField 50 50) := by decide +kernel
  have hfirst : p.FirstOutside ⟨0, 50⟩ := (firstOutside_of_layOut h).1
  exact ⟨p, hread, h, hfirst, fun hcorner => by cases hcorner.unique hfirst⟩

end Pattern

end LifeRom
