import Mathlib.Order.Basic
import LifeRom.Layout
import LifeRom.Rle.Reader

/-! # Bounded counts are enough

The tokens of the bounded and the exact reading differ, but only where a run or a row end leaves the
field anyway.
-/

namespace LifeRom

open Counting

/-- The first list holds the tokens of the second with saturated runs, and no more row ends at a
time than open one row below the field. -/
inductive Saturated : List Token → List Token → Prop

  | nil : Saturated [] []

  | dead (n : Nat) {ts us : List Token} : Saturated ts us →
      Saturated (.dead (min n maxWord) :: ts) (.dead n :: us)

  | alive (n : Nat) {ts us : List Token} : Saturated ts us →
      Saturated (.alive (min n maxWord) :: ts) (.alive n :: us)

  | rowEnds (n : Nat) {ts us : List Token} : Saturated ts us →
      Saturated (List.replicate (min n (side + 1)) .rowEnd ++ ts) (List.replicate n .rowEnd ++ us)

  | stop {ts us : List Token} : Saturated ts us → Saturated (.stop :: ts) (.stop :: us)

theorem Saturated.append {ts us ts' us' : List Token} (h : Saturated ts us)
    (h' : Saturated ts' us') : Saturated (ts ++ ts') (us ++ us') := by
  induction h with
  | nil => exact h'
  | dead n _ ih => exact .dead n ih
  | alive n _ ih => exact .alive n ih
  | rowEnds n _ ih =>
    rw [List.append_assoc, List.append_assoc]
    exact .rowEnds n ih
  | stop _ ih => exact .stop ih

namespace Layout

variable {s t : Layout} {left : Nat}

/-- Two layouts that differ in nothing but how far a column outside the field is counted. -/
structure Agrees (s t : Layout) : Prop where
  closed : s.closed = t.closed
  row : s.row = t.row
  column : s.column = min t.column maxWord

theorem Agrees.refl (h : t.column ≤ side) : Agrees t t where
  closed := rfl
  row := rfl
  column := by have := side_lt_maxWord; omega

theorem Agrees.advance (h : Agrees s t) (n : Nat) :
    word.advance s.column (min n maxWord) = min (exact.advance t.column n) maxWord := by
  simp only [word, exact, h.column]
  omega

theorem run_rowEnd (arith : Counting) (s : Layout) (ts : List Token) :
    s.run arith left (.rowEnd :: ts) =
      (s.closeRow >>= fun closed => run arith left ⟨closed, Row.blank, left⟩ ts) := by
  simp only [run, step, bind_assoc, pure_bind]

/-- A row end for each row that is free, and one more. -/
theorem run_rowEnds_eq_error (arith : Counting) (s : Layout) (ts : List Token) {n : Nat}
    (hs : s.closed.size ≤ side) (hn : side < s.closed.size + n) :
    s.run arith left (List.replicate n .rowEnd ++ ts) = .error (.outsideField side 0) := by
  induction n generalizing s with
  | zero => omega
  | succ n ih =>
    rw [List.replicate_succ, List.cons_append, run_rowEnd]
    by_cases hfull : s.closed.size = side
    · simp [closeRow, hfull, bind, Except.bind]
    · simp only [closeRow, if_neg hfull]
      exact ih _ (by simp only [Array.size_push]; omega) (by simp only [Array.size_push]; omega)

theorem run_rowEnds_congr {ts us : List Token} (hl : left ≤ side)
    (hrun : ∀ {s t : Layout}, Agrees s t → s.closed.size ≤ side →
      s.run word left ts = t.run exact left us) (n : Nat) :
    ∀ {s t : Layout}, Agrees s t → s.closed.size ≤ side →
      s.run word left (List.replicate n .rowEnd ++ ts) =
        t.run exact left (List.replicate n .rowEnd ++ us) := by
  induction n with
  | zero => exact hrun
  | succ n ih =>
    intro s t h hs
    rw [List.replicate_succ, List.cons_append, List.cons_append, run_rowEnd, run_rowEnd]
    by_cases hfull : s.closed.size = side
    · rw [closeRow_eq_error hfull, closeRow_eq_error (h.closed ▸ hfull)]
      rfl
    · rw [closeRow_eq_ok hfull, closeRow_eq_ok (h.closed ▸ hfull), h.closed, h.row]
      refine ih (Agrees.refl hl) ?_
      rw [h.closed] at hs hfull
      simp only [Array.size_push]
      omega

theorem run_eq_of_saturated {ts us : List Token} (hl : left ≤ side) (hts : Saturated ts us) :
    ∀ {s t : Layout}, Agrees s t → s.closed.size ≤ side →
      s.run word left ts = t.run exact left us := by
  induction hts with
  | nil => intros; rfl
  | dead n _ ih =>
    intro s t h hs
    simp only [run, step]
    exact ih ⟨h.closed, h.row, h.advance n⟩ hs
  | alive n _ ih =>
    intro s t h hs
    simp only [run, step, h.advance n, side_lt_min_maxWord, h.closed]
    by_cases hlast : side < exact.advance t.column n
    · rw [if_pos hlast, if_pos hlast]
      rfl
    · have hcol : s.column = t.column := by
        have := side_lt_maxWord
        simp only [exact] at hlast
        rw [h.column]
        omega
      have hmin : min (exact.advance t.column n) maxWord = exact.advance t.column n := by
        have := side_lt_maxWord
        omega
      rw [if_neg hlast, if_neg hlast, hmin, hcol, h.row]
      exact ih (Agrees.refl (Nat.not_lt.mp hlast)) (h.closed ▸ hs)
  | rowEnds n _ ih =>
    intro s t h hs
    by_cases hn : n ≤ side
    · rw [Nat.min_eq_left (by omega)]
      exact run_rowEnds_congr hl ih n h hs
    · rw [run_rowEnds_eq_error _ _ _ hs (by omega),
        run_rowEnds_eq_error _ _ _ (h.closed ▸ hs) (by omega)]
  | stop _ _ =>
    intro s t h _
    simp only [run, step, closeRow, h.closed, h.row]

end Layout

theorem Pattern.layOut_eq_of_saturated {p q : Pattern} (hw : p.width = q.width)
    (hh : p.height = q.height) (h : Saturated p.tokens q.tokens) :
    p.layOut = q.layOutWith .exact := by
  have hm : p.margins = q.margins := by simp only [margins, hw, hh]
  rw [layOut, layOutWith, layOutWith, hm]
  refine Layout.run_eq_of_saturated q.left_margins_le h (Layout.Agrees.refl q.left_margins_le) ?_
  simpa [Layout.start] using q.top_margins_le

namespace Rle.Reading

/-- A reading in words beside the same reading in exact numbers. -/
structure Follows (s t : Reading) : Prop where
  declared : s.declared = t.declared
  count : s.count = min t.count maxWord
  tokens : Saturated s.tokens.toList t.tokens.toList

theorem Follows.take {s t : Reading} (h : Follows s t) (symbol : Symbol) :
    Follows (s.take word symbol) (t.take exact symbol) := by
  have hcount : max 1 (min t.count maxWord) = min (max 1 t.count) maxWord := by
    have := side_lt_maxWord
    omega
  cases symbol with
  | digit d =>
    refine ⟨h.declared, ?_, h.tokens⟩
    simp only [Reading.take, word, exact, h.count]
    omega
  | dead =>
    refine ⟨h.declared, rfl, ?_⟩
    simp only [Reading.take, h.count, hcount, Array.toList_push]
    exact h.tokens.append (.dead _ .nil)
  | alive =>
    refine ⟨h.declared, rfl, ?_⟩
    simp only [Reading.take, h.count, hcount, Array.toList_push]
    exact h.tokens.append (.alive _ .nil)
  | rowEnd =>
    refine ⟨h.declared, rfl, ?_⟩
    have hrows : word.rowEnds s.count = min (exact.rowEnds t.count) (side + 1) := by
      have := side_lt_maxWord
      simp only [word, exact, h.count]
      omega
    simp only [Reading.take, hrows, Array.toList_append, Array.toList_replicate]
    simpa using h.tokens.append (.rowEnds (exact.rowEnds t.count) .nil)
  | stop =>
    refine ⟨h.declared, h.count, ?_⟩
    simp only [Reading.take, Array.toList_push]
    exact h.tokens.append (.stop .nil)

/-- Two results of reading: the same fault, or patterns of one size with saturated tokens. -/
inductive Alike : Except Fault Pattern → Except Fault Pattern → Prop

  | error (e : Fault) : Alike (.error e) (.error e)

  | ok {p q : Pattern} : p.width = q.width → p.height = q.height → Saturated p.tokens q.tokens →
      Alike (.ok p) (.ok q)

theorem alike_ofTokens {width height : Nat} {ts us : List Token} (h : Saturated ts us) :
    Alike (Pattern.ofTokens width height ts) (Pattern.ofTokens width height us) := by
  unfold Pattern.ofTokens
  split
  · exact .ok rfl rfl h
  · exact .error _

theorem Follows.pattern {s t : Reading} (h : Follows s t) : Alike s.pattern t.pattern := by
  unfold Reading.pattern
  rw [h.declared]
  split
  · exact alike_ofTokens h.tokens
  · exact .error _

theorem Follows.run {s t : Reading} (h : Follows s t) (items : List Item) :
    Alike (s.run word items) (t.run exact items) := by
  induction items generalizing s t with
  | nil =>
    simp only [Reading.run, unfinished, h.declared]
    exact .error _
  | cons item items ih =>
    cases item with
    | header ds =>
      simp only [Reading.run, h.declared]
      cases t.declared.addLine ds with
      | ok declared => exact ih ⟨rfl, h.count, h.tokens⟩
      | error e => exact .error e
    | symbol c position =>
      simp only [Reading.run]
      cases Symbol.ofChar? c with
      | none => exact .error _
      | some symbol =>
        cases symbol with
        | stop => exact (h.take .stop).pattern
        | digit d => exact ih (h.take (.digit d))
        | dead => exact ih (h.take .dead)
        | alive => exact ih (h.take .alive)
        | rowEnd => exact ih (h.take .rowEnd)

end Rle.Reading

namespace Rle

open Reading

theorem alike_read (lines : List (List Char)) : Alike (read lines) (readWith .exact lines) :=
  Follows.run ⟨rfl, rfl, .nil⟩ _

/-- Counting in words changes no result: the two readings of a document have the same fault, or both
succeed, and then their layouts have the same fault or the same grid. -/
theorem read_layOut_exact (lines : List (List Char)) :
    (∀ e, read lines = .error e ↔ readWith .exact lines = .error e) ∧
      ∀ p q, read lines = .ok p → readWith .exact lines = .ok q →
        p.layOut = q.layOutWith .exact := by
  have h := alike_read lines
  generalize read lines = r at h
  generalize readWith .exact lines = r' at h
  cases h with
  | error e => simp
  | ok hw hh ht =>
    have hlay := Pattern.layOut_eq_of_saturated hw hh ht
    simpa using hlay

/-- A dead run that no word holds: the tokens of the two readings differ, their layouts do not. -/
theorem read_layOut_exact_long_run :
    let lines := ["x = 1, y = 2".toList, "18446744073709551616b$o!".toList]
    ∃ p q, read lines = .ok p ∧ readWith .exact lines = .ok q ∧
      p.tokens = [.dead maxWord, .rowEnd, .alive 1, .stop] ∧
      q.tokens = [.dead (maxWord + 1), .rowEnd, .alive 1, .stop] ∧
      p.layOut = q.layOutWith .exact := by
  intro lines
  have hp : read lines = .ok ⟨1, 2, [.dead maxWord, .rowEnd, .alive 1, .stop], by decide,
      by decide⟩ := by
    decide +kernel
  have hq : readWith .exact lines = .ok ⟨1, 2, [.dead (maxWord + 1), .rowEnd, .alive 1, .stop],
      by decide, by decide⟩ := by
    decide +kernel
  exact ⟨_, _, hp, hq, rfl, rfl, (read_layOut_exact lines).2 _ _ hp hq⟩

end Rle

end LifeRom
