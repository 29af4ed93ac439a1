import Mathlib.Data.List.Induction
import LifeRom.Proofs.Layout.Placement
import LifeRom.Plaintext

/-! # Runs of a row

The tokens of a row draw its alive cells again; only dead cells at its end are left out.
-/

namespace LifeRom

namespace Token

def stretch : Token → List Bool
  | dead n => List.replicate n false
  | alive n => List.replicate n true
  | rowEnd | stop => []

/-- The cells that tokens draw in one row. -/
def drawn (ts : List Token) : List Bool := ts.flatMap stretch

@[simp] theorem length_stretch (t : Token) : t.stretch.length = t.length := by
  cases t <;> simp [stretch, length]

@[simp] theorem drawn_nil : drawn [] = [] := rfl

@[simp] theorem drawn_cons (t : Token) (ts : List Token) :
    drawn (t :: ts) = t.stretch ++ drawn ts := rfl

theorem length_drawn (ts : List Token) : (drawn ts).length = span ts := by
  induction ts with
  | nil => rfl
  | cons t ts ih => rw [drawn_cons, List.length_append, length_stretch, ih, span]

theorem getElem?_drawn_concat (ts : List Token) (t : Token) (k : Nat) :
    (drawn (ts ++ [t]))[k]? = some true ↔
      (drawn ts)[k]? = some true ∨ ∃ n, t = alive n ∧ span ts ≤ k ∧ k < span ts + n := by
  have happend : drawn (ts ++ [t]) = drawn ts ++ t.stretch := by simp [drawn]
  rw [happend]
  rcases Nat.lt_or_ge k (span ts) with hk | hk
  · rw [List.getElem?_append_left (length_drawn ts ▸ hk)]
    simp [Nat.not_le.mpr hk]
  · have hnone : (drawn ts)[k]? = none := List.getElem?_eq_none (length_drawn ts ▸ hk)
    rw [List.getElem?_append_right (length_drawn ts ▸ hk), hnone, length_drawn]
    cases t with
    | alive n =>
      simp [stretch, List.getElem?_replicate, hk]
      omega
    | dead n => simp [stretch, List.getElem?_replicate]
    | rowEnd | stop => simp [stretch]

theorem length_le_span {t : Token} {ts : List Token} (h : t ∈ ts) : t.length ≤ span ts := by
  induction ts with
  | nil => cases h
  | cons u ts ih =>
    rw [span]
    rcases List.mem_cons.mp h with rfl | h
    · omega
    · have := ih h
      omega

end Token

theorem Pattern.isRun_of_length {t : Token} (h : 1 ≤ t.length) (hmax : t.length ≤ maxWord) :
    IsRun t := by
  cases t with
  | dead n | alive n => exact ⟨h, hmax⟩
  | rowEnd => trivial
  | stop => cases h

namespace Plaintext

open Token

variable {b : Bool} {ts : List Token} {row : List Bool} {rows : List (List Bool)} {t : Token}

/-- A cell in front of runs is drawn in front of what they draw, if it is not the last one and
dead. -/
theorem drawn_consCell (h : b = true ∨ ts ≠ []) : drawn (consCell b ts) = b :: drawn ts := by
  fun_cases consCell b ts with
  | case1 n ts => simp [stretch, List.replicate_succ]
  | case2 ts => simp [stretch]
  | case3 => simp at h
  | case4 n ts => simp [stretch, List.replicate_succ]
  | case5 ts => simp [stretch]

theorem getElem?_drawn_rowTokens (row : List Bool) (k : Nat) :
    (drawn (rowTokens row))[k]? = some true ↔ row[k]? = some true := by
  induction row generalizing k with
  | nil => simp [rowTokens]
  | cons b row ih =>
    rw [rowTokens, List.foldr_cons, ← rowTokens]
    by_cases h : b = true ∨ rowTokens row ≠ []
    · rw [drawn_consCell h]
      cases k with
      | zero => rfl
      | succ k => exact ih k
    · rw [not_or, Bool.not_eq_true, not_not] at h
      obtain ⟨rfl, hrow⟩ := h
      rw [hrow] at ih ⊢
      cases k with
      | zero => simp [consCell]
      | succ k => simpa [consCell] using ih k

theorem span_rowTokens_le (row : List Bool) : span (rowTokens row) ≤ row.length := by
  induction row with
  | nil => exact Nat.le_refl 0
  | cons b row ih =>
    rw [rowTokens, List.foldr_cons, ← rowTokens, List.length_cons]
    by_cases h : b = true ∨ rowTokens row ≠ []
    · rw [← length_drawn, drawn_consCell h, List.length_cons, length_drawn]
      omega
    · rw [not_or, Bool.not_eq_true, not_not] at h
      rw [h.1, h.2]
      exact Nat.zero_le _

theorem one_le_length_consCell (h : ∀ t ∈ ts, 1 ≤ t.length) :
    ∀ t ∈ consCell b ts, 1 ≤ t.length := by
  fun_cases consCell b ts with
  | case1 n ts => simp_all
  | case2 ts => simp_all
  | case3 => exact h
  | case4 n ts => simp_all
  | case5 ts => simp_all

theorem one_le_length_rowTokens (row : List Bool) : ∀ t ∈ rowTokens row, 1 ≤ t.length := by
  induction row with
  | nil => exact List.forall_mem_nil _
  | cons b row ih => exact one_le_length_consCell ih

/-- The tokens of rows, with a row end between any two. -/
def body (rows : List (List Bool)) : List Token :=
  [.rowEnd].intercalate (rows.map rowTokens)

def closedRows (rows : List (List Bool)) : List Token :=
  rows.flatMap fun row => rowTokens row ++ [.rowEnd]

theorem closedRows_eq (h : rows ≠ []) : closedRows rows = body rows ++ [.rowEnd] := by
  induction rows with
  | nil => exact absurd rfl h
  | cons row rows ih =>
    cases rows with
    | nil => simp [closedRows, body]
    | cons row' rows =>
      rw [closedRows, List.flatMap_cons, ← closedRows, ih (List.cons_ne_nil _ _)]
      simp [body]

theorem mem_body (h : t ∈ body rows) : t = .rowEnd ∨ ∃ row ∈ rows, t ∈ rowTokens row := by
  have hne : rows ≠ [] := by
    rintro rfl
    cases h
  have hmem : t ∈ closedRows rows := closedRows_eq hne ▸ List.mem_append_left _ h
  obtain ⟨row, hrow, ht⟩ := List.mem_flatMap.mp hmem
  rcases List.mem_append.mp ht with ht | ht
  · exact Or.inr ⟨row, hrow, ht⟩
  · exact Or.inl (List.mem_singleton.mp ht)

end Plaintext

end LifeRom
