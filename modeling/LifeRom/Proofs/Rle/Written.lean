import LifeRom.Proofs.Rle.Grammar
import LifeRom.Proofs.Text.Lines
import LifeRom.Rle.Printer

/-! # Written documents -/

namespace LifeRom

open Text Pattern

namespace Text

theorem isBlank_of_isDigit {c : Char} (h : c.isDigit = true) : isBlank c = false := by
  rw [Char.isDigit_iff_toNat] at h
  simp only [isBlank, ← Char.toNat_inj, Char.le_def, UInt32.le_iff_toNat_le, Char.toNat_val,
    ← Bool.not_eq_true, Bool.or_eq_true, Bool.and_eq_true, decide_eq_true_eq, beq_iff_eq,
    Char.reduceToNat] at h ⊢
  omega

theorem trim_eq_self {cs : List Char} (h : ∀ c ∈ cs, isBlank c = false) : trim cs = cs := by
  have hdrop {ds : List Char} (hds : ∀ c ∈ ds, isBlank c = false) : ds.dropWhile isBlank = ds := by
    rw [List.dropWhile_eq_self_iff]
    intro hl
    simp [hds _ (List.getElem_mem hl)]
  rw [trim, hdrop h, hdrop (by simpa using h), List.reverse_reverse]

theorem trim_blank_repr (n : Nat) : trim (' ' :: n.repr.toList) = n.repr.toList := by
  rw [trim, List.dropWhile_cons_of_pos (by decide), ← trim]
  exact trim_eq_self fun c hc => isBlank_of_isDigit ((Numeral.isNumeral_repr n).2 c hc)

end Text

namespace Pattern

def edge (p : Pattern) : Axis → Nat
  | .x => p.width
  | .y => p.height

theorem edge_le (p : Pattern) (axis : Axis) : p.edge axis ≤ side := by
  cases axis
  · exact p.width_le
  · exact p.height_le

end Pattern

namespace Rle

variable {cs : List Char} {letter : Char} {p : Pattern} {t : Token} {ts : List Token} {n : Nat}

theorem countOf_le (digits : List Char) : countOf digits ≤ maxWord := Nat.min_le_right _ _

theorem countOf_repr (h : n ≤ maxWord) : countOf n.repr.toList = n := by
  rw [countOf, Numeral.value_repr, Nat.min_eq_left h]

theorem isRun_of_mem_tokensOf (digits : List Char) (ht : t ∈ tokensOf (countOf digits) letter) :
    Pattern.IsRun t := by
  have hrun : 1 ≤ max (countOf digits) 1 ∧ max (countOf digits) 1 ≤ maxWord := by
    have := countOf_le digits
    have := side_lt_maxWord
    omega
  unfold tokensOf at ht
  split at ht
  · rw [List.mem_singleton.mp ht]
    exact hrun
  · rw [List.mem_singleton.mp ht]
    exact hrun
  · rw [List.eq_of_mem_replicate ht]
    exact trivial
  · cases ht

theorem Spells.exists_body (h : Spells cs ts) :
    ∃ body, ts = body ++ [.stop] ∧ ∀ t ∈ body, Pattern.IsRun t := by
  induction h with
  | stop _ => exact ⟨[], rfl, List.forall_mem_nil _⟩
  | @item digits _ letter _ _ _ _ ih =>
    obtain ⟨body, rfl, hbody⟩ := ih
    refine ⟨tokensOf (countOf digits) letter ++ body, (List.append_assoc _ _ _).symm, ?_⟩
    exact List.forall_mem_append.mpr ⟨fun _ => isRun_of_mem_tokensOf digits, hbody⟩

theorem wellFormed_of_read {lines : List (List Char)} (h : read lines = .ok p) : p.WellFormed :=
  (read_eq_ok_iff.mp h).2.2.2.exists_body

theorem Spells.cons_toRle (ht : Pattern.IsRun t) (h : Spells cs ts) :
    Spells (t.toRle.toList ++ cs) (t :: ts) := by
  cases t with
  | dead n =>
    have hitem : Spells (n.repr.toList ++ 'b' :: cs) (tokensOf (countOf n.repr.toList) 'b' ++ ts) :=
      .item (Numeral.isNumeral_repr n).2 (by simp) h
    rw [countOf_repr ht.2, tokensOf, Nat.max_eq_left ht.1] at hitem
    simpa [Token.toRle] using hitem
  | alive n =>
    have hitem : Spells (n.repr.toList ++ 'o' :: cs) (tokensOf (countOf n.repr.toList) 'o' ++ ts) :=
      .item (Numeral.isNumeral_repr n).2 (by simp) h
    rw [countOf_repr ht.2, tokensOf, Nat.max_eq_left ht.1] at hitem
    simpa [Token.toRle] using hitem
  | rowEnd =>
    have hitem : Spells ([] ++ '$' :: cs) (tokensOf (countOf []) '$' ++ ts) :=
      .item (List.forall_mem_nil _) (by simp) h
    exact hitem
  | stop => exact ht.elim

def tokenLine (ts : List Token) : List Char :=
  ts.flatMap fun t => t.toRle.toList

theorem spells_tokenLine {body : List Token} (h : ∀ t ∈ body, Pattern.IsRun t) :
    Spells (tokenLine (body ++ [.stop])) (body ++ [.stop]) := by
  induction body with
  | nil => exact .stop (List.forall_mem_nil _)
  | cons t body ih =>
    rw [List.forall_mem_cons] at h
    exact (ih h.2).cons_toRle h.1

theorem Spells.upToStop_eq (h : Spells cs ts) : upToStop cs = cs := by
  have hdigits {digits : List Char} (hd : ∀ c ∈ digits, c.isDigit) : '!' ∉ digits :=
    fun hm => absurd (hd '!' hm) (by decide)
  induction h with
  | stop hd => rw [upToStop_append, if_neg (hdigits hd), upToStop, if_pos rfl]
  | @item digits cs letter _ hd hl _ ih =>
    have hletter : letter ≠ '!' := by
      rintro rfl
      simp at hl
    rw [upToStop_append, if_neg (hdigits hd), upToStop, if_neg hletter, ih]

theorem isBlank_of_isSymbol {c : Char} (h : IsSymbol c) : isBlank c = false := by
  rcases h with hdigit | hletter
  · exact isBlank_of_isDigit hdigit
  · simp only [List.mem_cons, List.not_mem_nil, or_false] at hletter
    rcases hletter with rfl | rfl | rfl | rfl <;> decide

theorem isBody_cons {c : Char} (h : IsSymbol c) : IsBody (c :: cs) := by
  have hhead (d : Char) (hd : ¬ IsSymbol d) : (c :: cs).head? ≠ some d := by
    rintro ⟨⟩
    exact hd h
  refine ⟨?_, fun hx => hhead 'x' (by decide) hx.2⟩
  rintro (hblank | hcomment)
  · exact absurd (hblank c List.mem_cons_self) (by rw [isBlank_of_isSymbol h]; decide)
  · exact hhead '#' (by decide) hcomment

theorem Spells.isBody (h : Spells cs ts) : IsBody cs := by
  obtain ⟨c, cs, rfl⟩ := List.exists_cons_of_ne_nil (List.ne_nil_of_mem h.stop_mem)
  exact isBody_cons (h.isSymbol c List.mem_cons_self)

theorem Spells.newline_not_mem (h : Spells cs ts) : '\n' ∉ cs := fun hm =>
  absurd (h.isSymbol '\n' hm) (by decide)

theorem valueIn?_append {key : List Char} (hkey : '=' ∉ key) (axis : Axis) (value : List Char) :
    valueIn? axis (key ++ '=' :: value) =
      if trim key = axis.name.toList then some (trim value) else none := by
  have hne : ∀ c ∈ key, decide (c ≠ '=') = true := fun c hc =>
    decide_eq_true (ne_of_mem_of_not_mem hc hkey)
  simp only [valueIn?, List.takeWhile_append_of_pos hne, List.dropWhile_append_of_pos hne]
  simp

theorem word?_repr (h : n ≤ maxWord) : word? n.repr.toList = some n := by
  have hword := word?_eq_some (Numeral.isNumeral_repr n) (by rwa [Numeral.value_repr])
  rwa [Numeral.value_repr] at hword

theorem splitOn_rleHeader (p : Pattern) :
    p.rleHeader.toList.splitOn ',' =
      ["x ".toList ++ '=' :: ' ' :: p.width.repr.toList,
        " y ".toList ++ '=' :: ' ' :: p.height.repr.toList] := by
  have hdigits (n : Nat) : ',' ∉ n.repr.toList := fun hm =>
    absurd ((Numeral.isNumeral_repr n).2 ',' hm) (by decide)
  have hjoin : p.rleHeader.toList = [','].intercalate
      ["x ".toList ++ '=' :: ' ' :: p.width.repr.toList,
        " y ".toList ++ '=' :: ' ' :: p.height.repr.toList] := by
    simp [rleHeader]
  rw [hjoin, List.splitOn_intercalate]
  · simp [-Nat.toList_repr, hdigits]
  · exact List.cons_ne_nil _ _

theorem valuesIn_rleHeader (p : Pattern) (axis : Axis) :
    valuesIn axis [p.rleHeader.toList] = [(p.edge axis).repr.toList] := by
  have hx : trim "x ".toList = "x".toList := by decide
  have hy : trim " y ".toList = "y".toList := by decide
  rw [valuesIn, List.flatMap_singleton, splitOn_rleHeader]
  simp only [List.filterMap_cons, List.filterMap_nil]
  rw [valueIn?_append (by decide), valueIn?_append (by decide), trim_blank_repr, trim_blank_repr,
    hx, hy]
  cases axis <;> rfl

theorem lastIn_rleHeader (p : Pattern) (axis : Axis) :
    lastIn axis [p.rleHeader.toList] = some (p.edge axis) := by
  have hword := (p.edge_le axis).trans side_lt_maxWord.le
  rw [lastIn, valuesIn_rleHeader, List.getLast?_singleton, Option.bind_some, word?_repr hword]

theorem legalHeaders_rleHeader (p : Pattern) : LegalHeaders [p.rleHeader.toList] := by
  constructor
  · intro axis value hvalue
    rw [valuesIn_rleHeader, List.mem_singleton] at hvalue
    exact ⟨p.edge axis, hvalue ▸ word?_repr ((p.edge_le axis).trans side_lt_maxWord.le)⟩
  · intro earlier hearlier axis
    rcases List.prefix_cons_iff.mp hearlier with rfl | ⟨rest, rfl, hrest⟩
    · exact Nat.zero_le _
    · rw [List.prefix_nil.mp hrest, lastIn_rleHeader]
      exact p.edge_le axis

theorem isHeader_rleHeader (p : Pattern) : IsHeader p.rleHeader.toList := by
  have hhead : p.rleHeader.toList.head? = some 'x' := by
    simp [rleHeader]
  refine ⟨?_, hhead⟩
  rintro (hblank | hcomment)
  · exact absurd (hblank 'x' (List.mem_of_head? hhead)) (by decide)
  · rw [hhead] at hcomment
    cases hcomment

theorem isLine_rleHeader (p : Pattern) : IsLine p.rleHeader.toList := by
  have hkeys : Plain "x = ".toList ∧ Plain ", y = ".toList := by decide
  apply Plain.isLine
  simp only [rleHeader, String.toList_append, plain_append, plain_repr, hkeys, and_self]

theorem lines_toRle (h : Spells (tokenLine p.tokens) p.tokens) :
    lines p.toRle.toList = [p.rleHeader.toList, tokenLine p.tokens] := by
  have hsplit : p.toRle.toList = p.rleHeader.toList ++ '\n' :: tokenLine p.tokens := by
    simp [toRle, tokenLine, List.flatMap_map, String.toList_join]
  rw [hsplit, lines_append_newline (isLine_rleHeader p),
    lines_eq_singleton (List.ne_nil_of_mem h.stop_mem) h.newline_not_mem]

theorem read_lines_toRle (h : p.WellFormed) : read (lines p.toRle.toList) = .ok p := by
  obtain ⟨body, htokens, hbody⟩ := h
  have hspells : Spells (tokenLine p.tokens) p.tokens := htokens ▸ spells_tokenLine hbody
  have hheader := isHeader_rleHeader p
  have hheaders : headersOf (lines p.toRle.toList) = [p.rleHeader.toList] := by
    rw [lines_toRle hspells, headersOf_cons, headersOf_cons, if_neg fun hb => hb.1.2 hheader,
      if_pos hheader, if_pos ⟨hspells.isBody, hspells.stop_mem⟩]
  have hsymbols : symbolsOf (lines p.toRle.toList) = tokenLine p.tokens := by
    rw [lines_toRle hspells, symbolsOf, bodyOf_cons, bodyOf_cons,
      if_neg (not_isBody_of_isHeader hheader), if_pos hspells.isBody]
    simpa [bodyOf] using hspells.upToStop_eq
  rw [read_eq_ok_iff, hheaders, hsymbols, lastIn_rleHeader, lastIn_rleHeader]
  exact ⟨legalHeaders_rleHeader p, rfl, rfl, hspells⟩

end Rle

end LifeRom
