import LifeRom.Proofs.Plaintext.Runs

/-! # Rows of a document -/

namespace LifeRom

theorem mapM_eq_ok_iff {ε α β : Type} {f : α × Nat → Except ε β} {p : α → Prop} {g : α → β}
    (h : ∀ a n b, f (a, n) = .ok b ↔ p a ∧ b = g a) {items : List (α × Nat)} {bs : List β} :
    items.mapM f = .ok bs ↔ (∀ a ∈ items.map Prod.fst, p a) ∧ bs = (items.map Prod.fst).map g := by
  induction items generalizing bs with
  | nil => simp [pure, Except.pure, eq_comm]
  | cons item items ih =>
    obtain ⟨a, n⟩ := item
    rw [List.mapM_cons, bind_eq_ok_iff, List.map_cons, List.forall_mem_cons, List.map_cons]
    simp only [bind_eq_ok_iff, h, ih, pure, Except.pure, Except.ok.injEq]
    constructor
    · rintro ⟨_, ⟨ha, rfl⟩, _, ⟨hitems, rfl⟩, rfl⟩
      exact ⟨⟨ha, hitems⟩, rfl⟩
    · rintro ⟨⟨ha, hitems⟩, rfl⟩
      exact ⟨_, ⟨ha, rfl⟩, _, ⟨hitems, rfl⟩, rfl⟩

namespace Plaintext

/-- The rows that lines show: those that are no comments. -/
def rowsOf (lines : List (List Char)) : List (List Char) :=
  lines.filter fun line => ¬ IsComment line

def longest (rows : List (List Char)) : Nat :=
  (rows.map List.length).foldr max 0

def IsCell (c : Char) : Prop := c ∈ ['O', '*', '.']

def IsAliveCell (c : Char) : Prop := c ∈ ['O', '*']

instance : DecidablePred IsCell := fun _ => inferInstanceAs (Decidable (_ ∈ _))

instance : DecidablePred IsAliveCell := fun _ => inferInstanceAs (Decidable (_ ∈ _))

def aliveIn (row : List Char) : List Bool :=
  row.map fun c => IsAliveCell c

variable {lines : List (List Char)} {p : Pattern}

theorem cell?_eq (c : Char) :
    cell? c = if IsCell c then some (decide (IsAliveCell c)) else none := by
  unfold cell?
  split
  · rfl
  · rfl
  · rfl
  · rw [if_neg]
    simp_all [IsCell]

theorem cell_eq_ok_iff {row column : Nat} {c : Char} {b : Bool} :
    cell row (c, column) = .ok b ↔ IsCell c ∧ b = decide (IsAliveCell c) := by
  rw [cell, cell?_eq]
  by_cases h : IsCell c
  · simp [h, eq_comm]
  · simp [h]

theorem cells_eq_ok_iff {row : Nat} {line : List Char} {bs : List Bool} :
    cells row line = .ok bs ↔ (∀ c ∈ line, IsCell c) ∧ bs = aliveIn line := by
  rw [cells, mapM_eq_ok_iff fun _ _ _ => cell_eq_ok_iff, List.zipIdx_map_fst, aliveIn]

theorem map_fst_rowLines (lines : List (List Char)) :
    (rowLines lines).map Prod.fst = rowsOf lines := by
  have hfilter : (rowLines lines).map Prod.fst =
      ((lines.zipIdx 1).map Prod.fst).filter fun line => ¬ IsComment line := by
    rw [List.filter_map]
    rfl
  rw [hfilter, List.zipIdx_map_fst, rowsOf]

theorem rows_eq_ok_iff {bs : List (List Bool)} :
    rows lines = .ok bs ↔
      (∀ row ∈ rowsOf lines, ∀ c ∈ row, IsCell c) ∧ bs = (rowsOf lines).map aliveIn := by
  rw [rows, mapM_eq_ok_iff fun _ _ _ => cells_eq_ok_iff, map_fst_rowLines]

theorem width_aliveIn (rows : List (List Char)) : width (rows.map aliveIn) = longest rows := by
  simp [width, longest, aliveIn, Function.comp_def]

theorem read_eq_ok_iff :
    read lines = .ok p ↔
      (∀ row ∈ rowsOf lines, ∀ c ∈ row, IsCell c) ∧ p.width = longest (rowsOf lines) ∧
        p.height = (rowsOf lines).length ∧
        p.tokens = body ((rowsOf lines).map aliveIn) ++ [.stop] := by
  simp only [read, bind_eq_ok_iff, rows_eq_ok_iff, Pattern.ofTokens_eq_ok_iff]
  constructor
  · rintro ⟨_, ⟨hcells, rfl⟩, hwidth, hheight, htokens⟩
    exact ⟨hcells, hwidth.trans (width_aliveIn _), hheight.trans (List.length_map _), htokens⟩
  · rintro ⟨hcells, hwidth, hheight, htokens⟩
    exact ⟨_, ⟨hcells, rfl⟩, hwidth.trans (width_aliveIn _).symm,
      hheight.trans (List.length_map _).symm, htokens⟩

theorem length_le_longest {rows : List (List Char)} {row : List Char} (h : row ∈ rows) :
    row.length ≤ longest rows := by
  induction rows with
  | nil => cases h
  | cons row' rows ih =>
    rw [longest, List.map_cons, List.foldr_cons, ← longest]
    rcases List.mem_cons.mp h with rfl | h
    · exact Nat.le_max_left _ _
    · exact (ih h).trans (Nat.le_max_right _ _)

theorem wellFormed_of_read (h : read lines = .ok p) : p.WellFormed := by
  obtain ⟨-, hwidth, -, htokens⟩ := read_eq_ok_iff.mp h
  refine ⟨_, htokens, fun t ht => ?_⟩
  rcases mem_body ht with rfl | ⟨row, hrow, ht⟩
  · trivial
  · obtain ⟨line, hline, rfl⟩ := List.mem_map.mp hrow
    have hlength : t.length ≤ side :=
      calc t.length
        _ ≤ Token.span (rowTokens (aliveIn line)) := Token.length_le_span ht
        _ ≤ (aliveIn line).length := span_rowTokens_le _
        _ = line.length := List.length_map _
        _ ≤ longest (rowsOf lines) := length_le_longest hline
        _ ≤ side := hwidth ▸ p.width_le
    exact Pattern.isRun_of_length (one_le_length_rowTokens _ t ht)
      (hlength.trans side_lt_maxWord.le)

end Plaintext

end LifeRom
