import LifeRom.Proofs.Faults
import LifeRom.Proofs.Plaintext.Rows

/-! # Refused plaintext documents -/

namespace LifeRom.Plaintext

def lineFault? (before : List (List Char)) (line : List Char) : Option Fault :=
  if IsComment line then none else Fault.stray? IsCell ⟨before.length + 1, 1⟩ line

def Refused (lines : List (List Char)) (e : Fault) : Prop :=
  Fault.First lineFault? lines e ∨
    Fault.Free lineFault? lines ∧
      (side < longest (rowsOf lines) ∨ side < (rowsOf lines).length) ∧
        e = .tooLarge (longest (rowsOf lines)) (rowsOf lines).length

variable {lines before : List (List Char)} {line : List Char} {e : Fault} {row column : Nat}

theorem free_lineFault?_iff :
    Fault.Free lineFault? lines ↔ ∀ row ∈ rowsOf lines, ∀ c ∈ row, IsCell c := by
  induction lines using List.reverseRecOn with
  | nil => simp [Fault.free_nil, rowsOf]
  | append_singleton lines line ih =>
    rw [Fault.free_concat, ih, lineFault?]
    by_cases hcomment : IsComment line
    · simp [rowsOf, hcomment]
    · rw [if_neg hcomment, Fault.stray?_eq_none_iff]
      simp [rowsOf, hcomment, or_imp, forall_and]

theorem mapM_cell (row column : Nat) (line : List Char) :
    (line.zipIdx column).mapM (cell row) =
      (Fault.stray? IsCell ⟨row, column⟩ line).elim (.ok (aliveIn line)) .error := by
  induction line generalizing column with
  | nil => rfl
  | cons c line ih =>
    rw [List.zipIdx_cons, List.mapM_cons, Fault.stray?, cell, cell?_eq, ih]
    by_cases hc : IsCell c
    · simp only [if_pos hc]
      cases Fault.stray? IsCell ⟨row, column + 1⟩ line <;> rfl
    · simp only [if_neg hc]
      rfl

theorem cells_of_stray? (h : Fault.stray? IsCell ⟨row, 1⟩ line = some e) :
    cells row line = .error e := by
  rw [cells, mapM_cell, h, Option.elim_some]

theorem rowLines_append_cons {after : List (List Char)} (h : ¬ IsComment line) :
    ∃ rest, rowLines (before ++ line :: after) =
      rowLines before ++ (line, before.length + 1) :: rest := by
  refine ⟨(after.zipIdx (before.length + 2)).filter fun line => ¬ IsComment line.1, ?_⟩
  rw [rowLines, List.zipIdx_append, List.filter_append, List.zipIdx_cons,
    List.filter_cons_of_pos (by simpa using h), Nat.add_comm 1, ← rowLines]

theorem rows_of_first (h : Fault.First lineFault? lines e) : rows lines = .error e := by
  obtain ⟨before, line, ⟨after, rfl⟩, hfree, he⟩ := h
  rw [lineFault?, Option.ite_none_left_eq_some] at he
  have hbefore : rows before = .ok ((rowsOf before).map aliveIn) :=
    rows_eq_ok_iff.mpr ⟨free_lineFault?_iff.mp hfree, rfl⟩
  have hline : cells (before.length + 1) line = .error e := cells_of_stray? he.2
  obtain ⟨rest, hrest⟩ := @rowLines_append_cons before line after he.1
  rw [rows] at hbefore
  rw [List.append_assoc, List.singleton_append, rows, hrest, List.mapM_append, hbefore,
    List.mapM_cons]
  simp only [hline]
  rfl

theorem read_of_free (h : Fault.Free lineFault? lines) :
    read lines = .error e ↔
      (side < longest (rowsOf lines) ∨ side < (rowsOf lines).length) ∧
        e = .tooLarge (longest (rowsOf lines)) (rowsOf lines).length := by
  have hrows : rows lines = .ok ((rowsOf lines).map aliveIn) :=
    rows_eq_ok_iff.mpr ⟨free_lineFault?_iff.mp h, rfl⟩
  have hread : read lines = Pattern.ofTokens (width ((rowsOf lines).map aliveIn))
      ((rowsOf lines).map aliveIn).length (tokens ((rowsOf lines).map aliveIn)) := by
    rw [read, hrows]
    rfl
  rw [hread, Pattern.ofTokens_eq_error_iff, width_aliveIn, List.length_map]

theorem read_eq_error_iff : read lines = .error e ↔ Refused lines e := by
  refine Fault.eq_error_iff (fun e h => ?_) read_of_free
  rw [read, rows_of_first h]
  rfl

theorem symbolIn?_of_read {c : Char} {position : Position}
    (h : read lines = .error (.unexpectedSymbol c position)) :
    position.symbolIn? lines = some c := by
  rcases read_eq_error_iff.mp h with ⟨before, line, hp, -, he⟩ | ⟨-, -, he⟩
  · rw [lineFault?, Option.ite_none_left_eq_some] at he
    obtain ⟨d, k, heq, hk⟩ := Fault.exists_of_stray? he.2
    cases heq
    rw [Position.symbolIn?_of_prefix hp, hk]
  · cases he

end LifeRom.Plaintext
