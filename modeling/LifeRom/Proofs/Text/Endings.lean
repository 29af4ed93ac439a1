import Mathlib.Data.List.Induction
import LifeRom.Format
import LifeRom.Proofs.Text.Lines

/-! # Line endings -/

namespace LifeRom

namespace Text

/-- A carriage return in front of each line feed. -/
def withReturns : List Char → List Char
  | [] => []
  | c :: cs => if c = '\n' then '\r' :: '\n' :: withReturns cs else c :: withReturns cs

variable {c : Char} {cs ending : List Char}

@[simp] theorem withReturns_newline (cs : List Char) :
    withReturns ('\n' :: cs) = '\r' :: '\n' :: withReturns cs := rfl

theorem withReturns_cons (h : c ≠ '\n') (cs : List Char) :
    withReturns (c :: cs) = c :: withReturns cs := if_neg h

theorem lines_cons_of_plain (hn : c ≠ '\n') (hr : c ≠ '\r') (cs : List Char) :
    lines (c :: cs) = match lines cs with
      | [] => [[c]]
      | l :: ls => (c :: l) :: ls :=
  lines_cons hn fun h => absurd h hr

theorem lines_withReturns (h : '\r' ∉ cs) : lines (withReturns cs) = lines cs := by
  induction cs with
  | nil => rfl
  | cons c cs ih =>
    obtain ⟨hr, hcs⟩ := not_or.mp (mt List.mem_cons.mpr h)
    by_cases hn : c = '\n'
    · subst hn
      simp [ih hcs]
    · simp only [withReturns_cons hn, lines_cons_of_plain hn (Ne.symm hr), ih hcs]

theorem lines_append_ending (hending : lines ending = [[]]) (hr : '\r' ∉ cs)
    (hlast : cs.getLast? = some c) (hc : c ≠ '\n') : lines (cs ++ ending) = lines cs := by
  induction cs with
  | nil => cases hlast
  | cons d cs ih =>
    obtain ⟨hd, hcs⟩ := not_or.mp (mt List.mem_cons.mpr hr)
    cases cs with
    | nil =>
      obtain rfl : d = c := by simpa using hlast
      simp only [List.singleton_append, lines_cons_of_plain hc (Ne.symm hd), hending, lines_nil]
    | cons e cs =>
      have hrest : lines (e :: cs ++ ending) = lines (e :: cs) := ih hcs (by simpa using hlast)
      rw [List.cons_append]
      by_cases hn : d = '\n'
      · subst hn
        simp only [lines_newline, hrest]
      · simp only [lines_cons_of_plain hn (Ne.symm hd), hrest]

end Text

namespace Format

/-- A text without carriage returns is read alike with one in front of each line feed, and with or
without a last line ending. -/
theorem read_any_endings (format : Format) {text : String} (h : '\r' ∉ text.toList) :
    format.read (String.ofList (Text.withReturns text.toList)) = format.read text ∧
      (text ≠ "" → text.toList.getLast? ≠ some '\n' →
        ∀ ending ∈ ["\n", "\r\n"], format.read (text ++ ending) = format.read text) := by
  constructor
  · simp only [Format.read, String.toList_ofList, Text.lines_withReturns h]
  · intro hne hlast ending hending
    have hending : Text.lines ending.toList = [[]] := by
      revert ending
      decide
    cases hc : text.toList.getLast? with
    | none =>
      rw [List.getLast?_eq_none_iff, String.toList_eq_nil_iff] at hc
      exact absurd hc hne
    | some c =>
      have hn : c ≠ '\n' := by
        rintro rfl
        exact hlast hc
      simp only [Format.read, String.toList_append, Text.lines_append_ending hending h hc hn]

/-- A fault in the last line, and a pattern below an empty line. -/
theorem read_any_endings_last_line :
    plaintext.read ".O\r\n\r\nO?" = .error (.unexpectedSymbol '?' ⟨3, 2⟩) ∧
      plaintext.read ".O\n\nO?\r\n" = .error (.unexpectedSymbol '?' ⟨3, 2⟩) ∧
      rle.read "x = 2, y = 1\r\n\r\n2o!" = rle.read "x = 2, y = 1\n\n2o!" := by
  have hfault : '\r' ∉ ".O\n\nO?".toList := by decide
  have hpattern : '\r' ∉ "x = 2, y = 1\n\n2o!".toList := by decide
  have hread : plaintext.read ".O\n\nO?" = .error (.unexpectedSymbol '?' ⟨3, 2⟩) := by
    decide
  obtain ⟨hreturns, hended⟩ := read_any_endings plaintext hfault
  refine ⟨hreturns.trans hread, ?_, (read_any_endings rle hpattern).1⟩
  exact (hended (by decide) (by decide) "\r\n" (by decide)).trans hread

end Format

end LifeRom
