import LifeRom.Proofs.Rle.Refusal
import LifeRom.Proofs.Rle.Written

/-! # Other lines for a document

The header lines and the symbols up to the first `!` are all that is read of a document.
-/

namespace LifeRom.Rle

/-- The lines hold header lines and the pieces of symbols, each in their order, down to the last of
the symbols. -/
inductive Holds : List (List Char) → List Char → List (List Char) → Prop

  | stop {piece rest : List Char} {lines : List (List Char)} :
      Holds [] (piece ++ ['!']) ((piece ++ '!' :: rest) :: lines)

  | header {header cs : List Char} {headers lines : List (List Char)} :
      Holds headers cs lines → Holds (header :: headers) cs (header :: lines)

  | piece {piece cs : List Char} {headers lines : List (List Char)} :
      Holds headers cs lines → Holds headers (piece ++ cs) (piece :: lines)

  | skipped {line cs : List Char} {headers lines : List (List Char)} : IsSkipped line →
      Holds headers cs lines → Holds headers cs (line :: lines)

variable {headers lines : List (List Char)} {cs ds line : List Char} {c : Char}

theorem isSkipped_nil : IsSkipped [] := Or.inl (List.forall_mem_nil _)

theorem symbolsOf_cons_of_isSkipped (h : IsSkipped line) (lines : List (List Char)) :
    symbolsOf (line :: lines) = symbolsOf lines := by
  rw [symbolsOf, bodyOf_cons, if_neg (not_isBody_of_isSkipped h), symbolsOf]

theorem symbolsOf_cons_of_isHeader (h : IsHeader line) (lines : List (List Char)) :
    symbolsOf (line :: lines) = symbolsOf lines := by
  rw [symbolsOf, bodyOf_cons, if_neg (not_isBody_of_isHeader h), symbolsOf]

theorem symbolsOf_cons_of_isBody (h : IsBody line) (lines : List (List Char)) :
    symbolsOf (line :: lines) =
      if '!' ∈ line then upToStop line else line ++ symbolsOf lines := by
  rw [symbolsOf, bodyOf_cons, if_pos h, upToStop_append, symbolsOf]

theorem headersOf_cons_of_isSkipped (h : IsSkipped line) (lines : List (List Char)) :
    headersOf (line :: lines) = headersOf lines := by
  rw [headersOf_cons_of_not_endsBody (not_endsBody_of_isSkipped h),
    if_neg (not_isHeader_of_isSkipped h)]

theorem headersOf_cons_of_isHeader (h : IsHeader line) (lines : List (List Char)) :
    headersOf (line :: lines) = line :: headersOf lines := by
  rw [headersOf_cons_of_not_endsBody (not_endsBody_of_isHeader h), if_pos h]

theorem headersOf_cons_of_isBody (h : IsBody line) (lines : List (List Char)) :
    headersOf (line :: lines) = if '!' ∈ line then [] else headersOf lines := by
  rw [headersOf_cons]
  simp only [h, true_and, if_neg h.2]

theorem stop_not_mem_of_upToStop_append (h : upToStop (cs ++ ds) = cs ++ ds) (hds : ds ≠ []) :
    '!' ∉ cs ∧ upToStop ds = ds := by
  rw [upToStop_append] at h
  split at h
  · have hle := (upToStop_prefix_self cs).length_le
    have hpos := List.length_pos_iff.mpr hds
    rw [h, List.length_append] at hle
    omega
  · next hstop => exact ⟨hstop, List.append_cancel_left h⟩

theorem Holds.ne_nil (h : Holds headers cs lines) : cs ≠ [] := by
  induction h with
  | stop => simp
  | header _ ih => exact ih
  | piece _ ih => simp [ih]
  | skipped _ _ ih => exact ih

theorem Holds.eq (h : Holds headers cs lines) (hheaders : ∀ line ∈ headers, IsHeader line)
    (hcs : ∀ c ∈ cs, IsSymbol c) (hstop : upToStop cs = cs) :
    headersOf lines = headers ∧ symbolsOf lines = cs := by
  -- a piece is a body line unless it is empty, and its `!` is the last symbol, so no piece but the
  -- last holds one
  induction h with
  | @stop piece rest lines =>
    have hbody : IsBody (piece ++ '!' :: rest) := by
      cases piece with
      | nil => exact isBody_cons (hcs '!' (by simp))
      | cons c piece => exact isBody_cons (hcs c (by simp))
    have hmem : '!' ∈ piece ++ '!' :: rest := by simp
    have hpiece := (stop_not_mem_of_upToStop_append hstop (List.cons_ne_nil _ _)).1
    rw [headersOf_cons_of_isBody hbody, symbolsOf_cons_of_isBody hbody, if_pos hmem, if_pos hmem,
      upToStop_append, if_neg hpiece, upToStop, if_pos rfl]
    exact ⟨rfl, rfl⟩
  | @header header cs headers lines _ ih =>
    rw [List.forall_mem_cons] at hheaders
    obtain ⟨ihheaders, ihcs⟩ := ih hheaders.2 hcs hstop
    rw [headersOf_cons_of_isHeader hheaders.1, symbolsOf_cons_of_isHeader hheaders.1, ihheaders]
    exact ⟨rfl, ihcs⟩
  | @piece piece cs headers lines h ih =>
    obtain ⟨hpiece, hstop⟩ := stop_not_mem_of_upToStop_append hstop h.ne_nil
    rw [List.forall_mem_append] at hcs
    obtain ⟨ihheaders, ihcs⟩ := ih hheaders hcs.2 hstop
    cases piece with
    | nil =>
      rw [headersOf_cons_of_isSkipped isSkipped_nil, symbolsOf_cons_of_isSkipped isSkipped_nil]
      exact ⟨ihheaders, ihcs⟩
    | cons c piece =>
      have hbody : IsBody (c :: piece) := isBody_cons (hcs.1 c List.mem_cons_self)
      rw [headersOf_cons_of_isBody hbody, symbolsOf_cons_of_isBody hbody, if_neg hpiece,
        if_neg hpiece, ihheaders, ihcs]
      exact ⟨rfl, rfl⟩
  | @skipped line cs headers lines hline _ ih =>
    rw [headersOf_cons_of_isSkipped hline, symbolsOf_cons_of_isSkipped hline]
    exact ih hheaders hcs hstop

theorem holds_of_stop_mem (h : '!' ∈ bodyOf lines) :
    Holds (headersOf lines) (symbolsOf lines) lines := by
  induction lines with
  | nil => cases h
  | cons line lines ih =>
    rw [bodyOf_cons] at h
    rcases line_cases line with hskip | hhead | hbody
    · rw [if_neg (not_isBody_of_isSkipped hskip)] at h
      rw [headersOf_cons_of_isSkipped hskip, symbolsOf_cons_of_isSkipped hskip]
      exact (ih h).skipped hskip
    · rw [if_neg (not_isBody_of_isHeader hhead)] at h
      rw [headersOf_cons_of_isHeader hhead, symbolsOf_cons_of_isHeader hhead]
      exact (ih h).header
    · rw [if_pos hbody, List.mem_append] at h
      rw [headersOf_cons_of_isBody hbody, symbolsOf_cons_of_isBody hbody]
      by_cases hstop : '!' ∈ line
      · obtain ⟨piece, rest, rfl, hpiece⟩ := List.eq_append_cons_of_mem hstop
        rw [if_pos hstop, if_pos hstop, upToStop_append, if_neg hpiece, upToStop, if_pos rfl]
        exact .stop
      · rw [if_neg hstop, if_neg hstop]
        exact (ih (h.resolve_left hstop)).piece

variable {p : Pattern}

theorem isHeader_of_mem_headersOf (h : line ∈ headersOf lines) : IsHeader line := by
  simpa using (List.mem_filter.mp h).2

/-- However else the header lines and the symbols of a document are laid out in lines, among comments
and blank lines and with anything behind the first `!`, the same pattern is read. -/
theorem read_reflowed (h : read lines = .ok p) :
    Holds (headersOf lines) (symbolsOf lines) lines ∧
      ∀ lines', Holds (headersOf lines) (symbolsOf lines) lines' → read lines' = .ok p := by
  obtain ⟨hlegal, hwidth, hheight, hspells⟩ := read_eq_ok_iff.mp h
  refine ⟨holds_of_stop_mem (mem_of_mem_upToStop hspells.stop_mem), fun lines' hholds => ?_⟩
  obtain ⟨hheaders, hsymbols⟩ := hholds.eq (fun _ => isHeader_of_mem_headersOf) hspells.isSymbol
    hspells.upToStop_eq
  rw [read_eq_ok_iff, hheaders, hsymbols]
  exact ⟨hlegal, hwidth, hheight, hspells⟩

/-- A number that is cut by a line break, a comment and a header line, and more behind the `!`. -/
theorem read_reflowed_number :
    let lines := ["#N bar".toList, "x = 20, y = 1".toList, "12o!".toList]
    let lines' := ["1".toList, "# 7".toList, "x = 20, y = 1".toList, "".toList, "2o".toList,
      "!9q".toList, "x = q".toList]
    let p : Pattern := ⟨20, 1, [.alive 12, .stop], by decide, by decide⟩
    read lines = .ok p ∧ Holds (headersOf lines) (symbolsOf lines) lines' ∧ read lines' = .ok p := by
  intro lines lines' p
  have hread : read lines = .ok p := by decide
  have hheaders : headersOf lines = ["x = 20, y = 1".toList] := by decide
  have hsymbols : symbolsOf lines = ['1'] ++ ([] ++ (['2', 'o'] ++ ([] ++ ['!']))) := by
    decide
  have hholds : Holds (headersOf lines) (symbolsOf lines) lines' := by
    rw [hheaders, hsymbols]
    exact .piece (.skipped (Or.inr rfl) (.header (.piece (.piece .stop))))
  exact ⟨hread, hholds, (read_reflowed hread).2 lines' hholds⟩

end LifeRom.Rle
