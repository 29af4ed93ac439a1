import Mathlib.Data.List.Chain
import Mathlib.Logic.Relation
import LifeRom.Proofs.Layout.Population
import LifeRom.Proofs.Plaintext.Drawing

/-! # Canonical patterns

The tokens of a row are runs of the two kinds in turn, up to the last alive cell. So the pattern of
a document depends only on the extent of its rows and on its alive cells.
-/

namespace LifeRom

namespace Token

def kind? : Token → Option Bool
  | dead _ => some false
  | alive _ => some true
  | rowEnd | stop => none

/-- Runs of a row as short as they can be: none is empty, neighbours differ, and the last is
alive. -/
structure IsNormal (ts : List Token) : Prop where
  run : ∀ t ∈ ts, ∃ n, 1 ≤ n ∧ (t = dead n ∨ t = alive n)
  alternate : ts.IsChain (kind? · ≠ kind? ·)
  last : ∀ n, ts.getLast? ≠ some (dead n)

theorem isNormal_nil : IsNormal [] where
  run := List.forall_mem_nil _
  alternate := .nil
  last := by simp

theorem isNormal_cons {t : Token} {ts : List Token} :
    IsNormal (t :: ts) ↔ (∃ n, 1 ≤ n ∧ (t = dead n ∨ t = alive n)) ∧
      (∀ u ∈ ts.head?, t.kind? ≠ u.kind?) ∧ (ts = [] → ∀ n, t ≠ dead n) ∧ IsNormal ts := by
  constructor
  · rintro ⟨hrun, halternate, hlast⟩
    rw [List.forall_mem_cons] at hrun
    rw [List.isChain_cons] at halternate
    refine ⟨hrun.1, halternate.1, ?_, hrun.2, halternate.2, ?_⟩
    · rintro rfl n rfl
      exact hlast n rfl
    · intro n hn
      exact hlast n (by rw [List.getLast?_cons, hn]; rfl)
  · rintro ⟨ht, hhead, hsingle, hts⟩
    refine ⟨List.forall_mem_cons.mpr ⟨ht, hts.run⟩, hts.alternate.cons hhead, fun n hn => ?_⟩
    rw [List.getLast?_cons, Option.some.injEq] at hn
    cases hlast : ts.getLast? with
    | none =>
      rw [hlast] at hn
      exact hsingle (List.getLast?_eq_none_iff.mp hlast) n hn
    | some u =>
      rw [hlast, Option.getD_some] at hn
      exact hts.last n (hn ▸ hlast)

end Token

namespace Plaintext

open Token

theorem isNormal_consCell {b : Bool} {ts : List Token} (h : IsNormal ts) :
    IsNormal (consCell b ts) := by
  fun_cases consCell b ts with
  | case1 n ts =>
    obtain ⟨-, hhead, -, hts⟩ := isNormal_cons.mp h
    exact isNormal_cons.mpr ⟨⟨n + 1, by simp⟩, hhead, by simp, hts⟩
  | case2 ts hfirst =>
    refine isNormal_cons.mpr ⟨⟨1, by simp⟩, fun u hu => ?_, by simp, h⟩
    obtain ⟨us, rfl⟩ := List.head?_eq_some_iff.mp hu
    obtain ⟨n, -, rfl | rfl⟩ := h.run u List.mem_cons_self
    · simp [kind?]
    · exact absurd rfl (hfirst _ _)
  | case3 => exact h
  | case4 n ts =>
    obtain ⟨-, hhead, hsingle, hts⟩ := isNormal_cons.mp h
    refine isNormal_cons.mpr ⟨⟨n + 1, by simp⟩, hhead, fun hnil => ?_, hts⟩
    exact absurd rfl (hsingle hnil n)
  | case5 ts hne hfirst =>
    refine isNormal_cons.mpr ⟨⟨1, by simp⟩, fun u hu => ?_, fun hnil => absurd hnil hne, h⟩
    obtain ⟨us, rfl⟩ := List.head?_eq_some_iff.mp hu
    obtain ⟨n, -, rfl | rfl⟩ := h.run u List.mem_cons_self
    · exact absurd rfl (hfirst _ _)
    · simp [kind?]

theorem isNormal_rowTokens (row : List Bool) : IsNormal (rowTokens row) := by
  induction row with
  | nil => exact isNormal_nil
  | cons b row ih => exact isNormal_consCell ih

theorem rowTokens_eq_nil {row : List Bool} (h : ∀ j : Nat, row[j]? ≠ some true) :
    rowTokens row = [] := by
  induction row with
  | nil => rfl
  | cons b row ih =>
    obtain rfl : b = false := by simpa using h 0
    rw [rowTokens, List.foldr_cons, ← rowTokens, ih fun j => h (j + 1)]
    rfl

theorem rowTokens_congr {row row' : List Bool}
    (h : ∀ j : Nat, row[j]? = some true ↔ row'[j]? = some true) :
    rowTokens row = rowTokens row' := by
  induction row generalizing row' with
  | nil =>
    apply Eq.symm
    apply rowTokens_eq_nil
    intro j hj
    simpa using (h j).mpr hj
  | cons b row ih =>
    cases row' with
    | nil =>
      apply rowTokens_eq_nil
      intro j hj
      simpa using (h j).mp hj
    | cons b' row' =>
      obtain rfl : b = b' := Bool.eq_iff_iff.mpr (by simpa using h 0)
      exact congrArg (consCell b) (ih fun j => h (j + 1))

variable {p p' : Pattern} {lines lines' before after : List (List Char)} {row : List Char}

theorem rows_body {rows : List (List Bool)} (h : rows ≠ []) :
    Token.rows (body rows) = rows.map rowTokens := by
  refine List.splitOn_intercalate _ (fun ts hts => ?_) (by simpa using h)
  obtain ⟨row, -, rfl⟩ := List.mem_map.mp hts
  exact rowEnd_not_mem_rowTokens row

/-- The tokens that are read from a document are the runs of its rows and the one `stop`. -/
theorem normal_of_read (h : read lines = .ok p) :
    p.tokens = p.active ++ [.stop] ∧ (Token.rows p.active).length = max p.height 1 ∧
      ∀ ts ∈ Token.rows p.active, IsNormal ts := by
  obtain ⟨-, -, hheight, htokens⟩ := read_eq_ok_iff.mp h
  rw [← (reaches_stop htokens).eq_active]
  refine ⟨htokens, ?_⟩
  by_cases hrows : rowsOf lines = []
  · rw [hheight, hrows]
    refine ⟨rfl, fun ts hts => ?_⟩
    obtain rfl : ts = [] := List.mem_singleton.mp hts
    exact isNormal_nil
  · rw [rows_body (by simpa using hrows)]
    constructor
    · have := List.length_pos_iff.mpr hrows
      rw [List.length_map, List.length_map, hheight]
      omega
    · intro ts hts
      obtain ⟨cells, -, rfl⟩ := List.mem_map.mp hts
      exact isNormal_rowTokens cells

/-- The symbol in a row and a column of a document is that of an alive cell. -/
def AliveAt (lines : List (List Char)) (i j : Nat) : Prop :=
  ∃ row symbol, (rowsOf lines)[i]? = some row ∧ row[j]? = some symbol ∧ IsAliveCell symbol

theorem getElem?_aliveIn {j : Nat} :
    (aliveIn row)[j]? = some true ↔ ∃ symbol, row[j]? = some symbol ∧ IsAliveCell symbol := by
  rw [aliveIn, List.getElem?_map, Option.map_eq_some_iff]
  simp only [decide_eq_true_eq]

theorem aliveAt_of_getElem? {i j : Nat} (h : (rowsOf lines)[i]? = some row) :
    AliveAt lines i j ↔ (aliveIn row)[j]? = some true := by
  rw [getElem?_aliveIn]
  constructor
  · rintro ⟨row', symbol, hi, hj, hsymbol⟩
    obtain rfl : row = row' := Option.some.inj (h.symm.trans hi)
    exact ⟨symbol, hj, hsymbol⟩
  · rintro ⟨symbol, hj, hsymbol⟩
    exact ⟨row, symbol, h, hj, hsymbol⟩

theorem aliveAt_iff_coveredBy (p : Pattern) {i j : Nat} :
    AliveAt lines i j ↔ p.CoveredBy (body ((rowsOf lines).map aliveIn))
      ⟨p.margins.left + j, p.margins.top + i⟩ := by
  rw [coveredBy_body, shows_aliveIn]
  constructor
  · rintro ⟨row, symbol, hi, hj, hsymbol⟩
    exact ⟨i, j, row, symbol, hi, hj, hsymbol, rfl, rfl⟩
  · rintro ⟨i', j', row, symbol, hi, hj, hsymbol, hx, hy⟩
    obtain rfl : j = j' := Nat.add_left_cancel hx
    obtain rfl : i = i' := Nat.add_left_cancel hy
    exact ⟨row, symbol, hi, hj, hsymbol⟩

/-- Documents with rows of the same extent and the same alive cells in them. -/
structure SameDrawing (lines lines' : List (List Char)) : Prop where
  height : (rowsOf lines).length = (rowsOf lines').length
  width : longest (rowsOf lines) = longest (rowsOf lines')
  alive : ∀ i j, AliveAt lines i j ↔ AliveAt lines' i j

theorem read_congr
    (hcells : (∀ row ∈ rowsOf lines, ∀ c ∈ row, IsCell c) ↔
      ∀ row ∈ rowsOf lines', ∀ c ∈ row, IsCell c)
    (hwidth : longest (rowsOf lines) = longest (rowsOf lines'))
    (htokens : ((rowsOf lines).map aliveIn).map rowTokens =
      ((rowsOf lines').map aliveIn).map rowTokens) :
    read lines = .ok p ↔ read lines' = .ok p := by
  have hheight : (rowsOf lines).length = (rowsOf lines').length := by
    simpa using congrArg List.length htokens
  rw [read_eq_ok_iff, read_eq_ok_iff, hcells, hwidth, hheight, body, body, htokens]

theorem SameDrawing.map_rowTokens (h : SameDrawing lines lines') :
    ((rowsOf lines).map aliveIn).map rowTokens =
      ((rowsOf lines').map aliveIn).map rowTokens := by
  apply List.ext_getElem
  · simpa using h.height
  · intro i hi hi'
    simp only [List.length_map] at hi hi'
    simp only [List.getElem_map]
    apply rowTokens_congr
    intro j
    rw [← aliveAt_of_getElem? (List.getElem?_eq_getElem hi), h.alive,
      aliveAt_of_getElem? (List.getElem?_eq_getElem hi')]

/-- Two documents are read as the same pattern just if they show the same drawing. -/
theorem eq_iff_sameDrawing (h : read lines = .ok p) (h' : read lines' = .ok p') :
    p = p' ↔ SameDrawing lines lines' := by
  obtain ⟨hcells, hwidth, hheight, htokens⟩ := read_eq_ok_iff.mp h
  obtain ⟨hcells', hwidth', hheight', htokens'⟩ := read_eq_ok_iff.mp h'
  constructor
  · rintro rfl
    refine ⟨hheight.symm.trans hheight', hwidth.symm.trans hwidth', fun i j => ?_⟩
    rw [aliveAt_iff_coveredBy p, aliveAt_iff_coveredBy p,
      List.append_cancel_right (htokens.symm.trans htokens')]
  · intro hsame
    have hread := (read_congr (iff_of_true hcells hcells') hsame.width hsame.map_rowTokens).mp h
    exact Except.ok.inj (hread.symm.trans h')

/-- One change in the spelling of a document. -/
inductive Respelled : List (List Char) → List (List Char) → Prop

  | symbol {before after : List (List Char)} {left right : List Char} {c d : Char} :
      IsAliveCell c → IsAliveCell d →
      Respelled (before ++ (left ++ c :: right) :: after) (before ++ (left ++ d :: right) :: after)

  | comment {before after : List (List Char)} {line : List Char} : IsComment line →
      Respelled (before ++ after) (before ++ line :: after)

  | dot {before after : List (List Char)} {row : List Char} :
      row.length < longest (rowsOf (before ++ row :: after)) →
      Respelled (before ++ row :: after) (before ++ (row ++ ['.']) :: after)

theorem rowsOf_append_cons (before : List (List Char)) (row : List Char)
    (after : List (List Char)) :
    rowsOf (before ++ row :: after) =
      rowsOf before ++ if IsComment row then rowsOf after else row :: rowsOf after := by
  by_cases h : IsComment row <;> simp [rowsOf, h]

theorem longest_append_cons (rows rows' : List (List Char)) (row : List Char) :
    longest (rows ++ row :: rows') = max row.length (longest (rows ++ rows')) := by
  induction rows with
  | nil => rfl
  | cons first rows ih =>
    unfold longest at ih ⊢
    simp only [List.cons_append, List.map_cons, List.foldr_cons, ih]
    omega

theorem read_congr_row {row' : List Char} (hcomment : IsComment row ↔ IsComment row')
    (hcells : (∀ c ∈ row, IsCell c) ↔ ∀ c ∈ row', IsCell c)
    (hwidth : ¬ IsComment row → longest (rowsOf before ++ row :: rowsOf after) =
      longest (rowsOf before ++ row' :: rowsOf after))
    (htokens : rowTokens (aliveIn row) = rowTokens (aliveIn row')) :
    read (before ++ row :: after) = .ok p ↔ read (before ++ row' :: after) = .ok p := by
  by_cases h : IsComment row
  · have hrows : rowsOf (before ++ row :: after) = rowsOf (before ++ row' :: after) := by
      rw [rowsOf_append_cons, rowsOf_append_cons, if_pos h, if_pos (hcomment.mp h)]
    exact read_congr (by rw [hrows]) (by rw [hrows]) (by rw [hrows])
  · have hrow := rowsOf_append_cons before row after
    have hrow' := rowsOf_append_cons before row' after
    rw [if_neg h] at hrow
    rw [if_neg (mt hcomment.mpr h)] at hrow'
    refine read_congr ?_ ?_ ?_
    · simp only [hrow, hrow', List.forall_mem_append, List.forall_mem_cons, hcells]
    · rw [hrow, hrow', hwidth h]
    · simp only [hrow, hrow', List.map_append, List.map_cons, htokens]

theorem Respelled.read_iff (h : Respelled lines lines') :
    read lines = .ok p ↔ read lines' = .ok p := by
  cases h with
  | @symbol before after left right c d hc hd =>
    have hcell {e : Char} (he : IsAliveCell e) : IsCell e := List.mem_append_left ['.'] he
    have hfirst {e : Char} (he : IsAliveCell e) : e ≠ '!' := by
      rintro rfl
      exact absurd he (by decide)
    refine read_congr_row ?_ ?_ (fun _ => ?_) ?_
    · cases left with
      | nil => simp [IsComment, hfirst hc, hfirst hd]
      | cons => exact Iff.rfl
    · simp [or_imp, forall_and, hcell hc, hcell hd]
    · simp [longest_append_cons]
    · simp [aliveIn, hc, hd]
  | @comment before after line hline =>
    have hrows : rowsOf (before ++ after) = rowsOf (before ++ line :: after) := by
      rw [rowsOf_append_cons, if_pos hline]
      exact List.filter_append ..
    exact read_congr (by rw [hrows]) (by rw [hrows]) (by rw [hrows])
  | @dot before after row hrow =>
    refine read_congr_row ?_ ?_ (fun hcomment => ?_) (rowTokens_congr fun j => ?_)
    · cases row with
      | nil => simp [IsComment]
      | cons => exact Iff.rfl
    · simp [or_imp, forall_and, IsCell]
    · rw [rowsOf_append_cons, if_neg hcomment, longest_append_cons] at hrow
      rw [longest_append_cons, longest_append_cons, List.length_append, List.length_singleton]
      omega
    · have hdot : aliveIn (row ++ ['.']) = aliveIn row ++ [false] := by
        simp [aliveIn, IsAliveCell]
      rw [hdot]
      grind

/-- Two documents are read as the same pattern just if both have as many rows, the longest of them
as long, and are alive in the same places. -/
theorem read_canonical (h : read lines = .ok p) :
    (∀ lines' p', read lines' = .ok p' →
      (p = p' ↔ (rowsOf lines).length = (rowsOf lines').length ∧
        longest (rowsOf lines) = longest (rowsOf lines') ∧
        ∀ i j, AliveAt lines i j ↔ AliveAt lines' i j)) ∧
      (∀ lines', Relation.EqvGen Respelled lines lines' → read lines' = .ok p) ∧
      p.tokens = p.active ++ [.stop] ∧ (Token.rows p.active).length = max p.height 1 ∧
      ∀ row ∈ Token.rows p.active, IsNormal row := by
  refine ⟨fun lines' p' h' => ?_, fun lines' hlines => ?_, normal_of_read h⟩
  · rw [eq_iff_sameDrawing h h']
    exact ⟨fun hsame => ⟨hsame.height, hsame.width, hsame.alive⟩,
      fun ⟨hheight, hwidth, halive⟩ => ⟨hheight, hwidth, halive⟩⟩
  · have hread : read lines = .ok p ↔ read lines' = .ok p := by
      clear h
      induction hlines with
      | rel lines lines' hlines => exact hlines.read_iff
      | refl lines => exact Iff.rfl
      | symm lines lines' _ ih => exact ih.symm
      | trans lines lines' lines'' _ _ ih ih' => exact ih.trans ih'
    exact hread.mp h

/-- An empty row between two others, a dot behind the shorter of them, and a document that is alive
in the same places but wider. -/
theorem read_canonical_dot :
    let lines := ["O.*".toList, [], ['O']]
    ∃ p, read lines = .ok p ∧ read ["O.*".toList, [], ['O', '.']] = .ok p ∧
      (∀ row ∈ Token.rows p.active, Token.IsNormal row) ∧
      ∃ p', read ["O.*.".toList, [], ['O']] = .ok p' ∧ p ≠ p' := by
  intro lines
  let tokens : List Token := [.alive 1, .dead 1, .alive 1, .rowEnd, .rowEnd, .alive 1, .stop]
  have hread : read lines = .ok ⟨3, 3, tokens, by decide, by decide⟩ := by decide
  have hwide : read ["O.*.".toList, [], ['O']] = .ok ⟨4, 3, tokens, by decide, by decide⟩ := by
    decide
  obtain ⟨hsame, hrespelled, -, -, hnormal⟩ := read_canonical hread
  refine ⟨_, hread, hrespelled _ (.rel _ _ ?_), hnormal, _, hwide, fun heq => ?_⟩
  · exact @Respelled.dot ["O.*".toList, []] [] ['O'] (by decide)
  · have hwidth := ((hsame _ _ hwide).mp heq).2.1
    revert hwidth
    decide

end Plaintext

end LifeRom
