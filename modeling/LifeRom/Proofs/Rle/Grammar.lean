import LifeRom.Proofs.Rle.Declared
import LifeRom.Rle.Reader

/-! # The grammar of run-length documents

The characters up to the first `!` spell the tokens, a string of digits and a letter at a time,
however they are laid out in lines.
-/

namespace LifeRom.Rle

open Text

/-- A line of symbols. -/
def IsBody (line : List Char) : Prop := ¬ IsSkipped line ∧ ¬ IsHeader line

instance (line : List Char) : Decidable (IsBody line) :=
  inferInstanceAs (Decidable (_ ∧ _))

def bodyOf (lines : List (List Char)) : List Char :=
  (lines.filter IsBody).flatten

/-- The characters up to and including the first `!`. -/
def upToStop : List Char → List Char
  | [] => []
  | c :: cs => if c = '!' then ['!'] else c :: upToStop cs

/-- The symbols of a document. -/
def symbolsOf (lines : List (List Char)) : List Char :=
  upToStop (bodyOf lines)

/-- The header lines before the body line with the first `!`. -/
def headersOf (lines : List (List Char)) : List (List Char) :=
  (lines.takeWhile fun line => ¬ (IsBody line ∧ '!' ∈ line)).filter IsHeader

def IsSymbol (c : Char) : Prop := c.isDigit ∨ c ∈ ['b', 'o', '$', '!']

instance : DecidablePred IsSymbol := fun _ => inferInstanceAs (Decidable (_ ∨ _))

/-- The value of a string of digits, as far as a word holds it; 0 without digits. -/
def countOf (digits : List Char) : Nat :=
  min (Numeral.value digits) maxWord

def tokensOf (count : Nat) : Char → List Token
  | 'b' => [.dead (max count 1)]
  | 'o' => [.alive (max count 1)]
  | '$' => List.replicate (min (max count 1) (side + 1)) .rowEnd
  | _ => []

/-- The tokens that symbols spell. -/
inductive Spells : List Char → List Token → Prop

  | stop {digits : List Char} : (∀ c ∈ digits, c.isDigit) → Spells (digits ++ ['!']) [.stop]

  | item {digits cs : List Char} {letter : Char} {ts : List Token} : (∀ c ∈ digits, c.isDigit) →
      letter ∈ ['b', 'o', '$'] → Spells cs ts →
      Spells (digits ++ letter :: cs) (tokensOf (countOf digits) letter ++ ts)

theorem digits_append_inj {ds ds' cs cs' : List Char} {c c' : Char} (hds : ∀ d ∈ ds, d.isDigit)
    (hds' : ∀ d ∈ ds', d.isDigit) (hc : ¬ c.isDigit) (hc' : ¬ c'.isDigit)
    (h : ds ++ c :: cs = ds' ++ c' :: cs') : ds = ds' ∧ c = c' ∧ cs = cs' := by
  induction ds generalizing ds' with
  | nil =>
    cases ds' with
    | nil => simpa using h
    | cons d' ds' =>
      rw [List.nil_append, List.cons_append, List.cons.injEq] at h
      exact absurd (hds' d' (by simp)) (h.1 ▸ hc)
  | cons d ds ih =>
    cases ds' with
    | nil =>
      rw [List.nil_append, List.cons_append, List.cons.injEq] at h
      exact absurd (hds d (by simp)) (h.1 ▸ hc')
    | cons d' ds' =>
      rw [List.cons_append, List.cons_append, List.cons.injEq] at h
      obtain ⟨rfl, rfl, rfl⟩ := ih (fun e he => hds e (by simp [he]))
        (fun e he => hds' e (by simp [he])) h.2
      exact ⟨by rw [h.1], rfl, rfl⟩

section Spells

variable {digits cs : List Char} {c letter : Char} {ts : List Token}

theorem not_isDigit_of_mem_letters (h : letter ∈ ['b', 'o', '$']) : ¬ letter.isDigit := by
  simp only [List.mem_cons, List.not_mem_nil, or_false] at h
  rcases h with rfl | rfl | rfl <;> decide

theorem symbol_cases (c : Char) :
    c = '!' ∨ c ≠ '!' ∧ (c.isDigit ∨ c ∈ ['b', 'o', '$'] ∨ ¬ IsSymbol c) := by
  have hsymbol : IsSymbol c ↔ c.isDigit ∨ c ∈ ['b', 'o', '$'] ∨ c = '!' := by
    simp [IsSymbol, or_assoc]
  grind

theorem Spells.isSymbol (h : Spells cs ts) : ∀ c ∈ cs, IsSymbol c := by
  induction h with
  | stop hd =>
    intro c hc
    rcases List.mem_append.mp hc with hc | hc
    · exact Or.inl (hd c hc)
    · exact Or.inr (by simp_all)
  | item hd hl _ ih =>
    intro c hc
    rcases List.mem_append.mp hc with hc | hc
    · exact Or.inl (hd c hc)
    · rcases List.mem_cons.mp hc with rfl | hc
      · exact Or.inr (List.mem_append_left ['!'] hl)
      · exact ih c hc

theorem Spells.stop_mem (h : Spells cs ts) : '!' ∈ cs := by
  induction h with
  | stop hd => exact List.mem_append_right _ (List.mem_singleton_self _)
  | item hd hl _ ih => exact List.mem_append_right _ (List.mem_cons_of_mem _ ih)

theorem spells_stop_iff (hd : ∀ c ∈ digits, c.isDigit) :
    Spells (digits ++ ['!']) ts ↔ ts = [.stop] := by
  constructor
  · generalize hcs : digits ++ ['!'] = cs
    rintro (⟨hd'⟩ | ⟨hd', hl, -⟩)
    · rfl
    · obtain ⟨-, rfl, -⟩ := digits_append_inj hd hd' (by decide) (not_isDigit_of_mem_letters hl) hcs
      simp at hl
  · rintro rfl; exact .stop hd

theorem spells_letter_iff (hd : ∀ c ∈ digits, c.isDigit) (hl : letter ∈ ['b', 'o', '$']) :
    Spells (digits ++ letter :: cs) ts ↔
      ∃ ts', Spells cs ts' ∧ ts = tokensOf (countOf digits) letter ++ ts' := by
  constructor
  · generalize hcs : digits ++ letter :: cs = cs'
    rintro (⟨hd'⟩ | ⟨hd', hl', h⟩)
    · obtain ⟨-, rfl, -⟩ := digits_append_inj hd hd' (not_isDigit_of_mem_letters hl) (by decide) hcs
      simp at hl
    · obtain ⟨rfl, rfl, rfl⟩ := digits_append_inj hd hd' (not_isDigit_of_mem_letters hl)
        (not_isDigit_of_mem_letters hl') hcs
      exact ⟨_, h, rfl⟩
  · rintro ⟨ts', h, rfl⟩; exact .item hd hl h

theorem not_spells_digits (hd : ∀ c ∈ digits, c.isDigit) : ¬ Spells digits ts := by
  rintro (⟨-⟩ | ⟨-, hl, -⟩)
  · exact absurd (hd '!' (by simp)) (by decide)
  · exact not_isDigit_of_mem_letters hl (hd _ (by simp))

theorem exists_spells (hd : ∀ c ∈ digits, c.isDigit) (hstop : '!' ∈ cs)
    (hcs : ∀ c ∈ upToStop cs, IsSymbol c) : ∃ ts, Spells (digits ++ upToStop cs) ts := by
  induction cs generalizing digits with
  | nil => simp at hstop
  | cons c cs ih =>
    by_cases hc : c = '!'
    · rw [upToStop, if_pos hc]
      exact ⟨_, .stop hd⟩
    · rw [upToStop, if_neg hc] at hcs ⊢
      have hcs' : ∀ c ∈ upToStop cs, IsSymbol c := fun c' h => hcs c' (List.mem_cons_of_mem _ h)
      have hstop' : '!' ∈ cs := List.mem_of_ne_of_mem (Ne.symm hc) hstop
      rcases hcs c List.mem_cons_self with hdigit | hletter
      · have hd' : ∀ d ∈ digits ++ [c], d.isDigit :=
          List.forall_mem_append.mpr ⟨hd, by simpa using hdigit⟩
        obtain ⟨ts, h⟩ := ih hd' hstop' hcs'
        exact ⟨ts, by simpa using h⟩
      · obtain ⟨ts, h⟩ := ih (List.forall_mem_nil _) hstop' hcs'
        exact ⟨_, .item hd (by simp_all) h⟩

end Spells

theorem append_countOf {digits : List Char} {c : Char} :
    Counting.word.append (countOf digits) (c.toNat - '0'.toNat) = countOf (digits ++ [c]) := by
  simp only [countOf, Numeral.value, Nat.ofDigitChars_append, Nat.ofDigitChars_cons,
    Nat.ofDigitChars_nil, Counting.word]
  omega

namespace Symbol

theorem ofChar?_digit {c : Char} (h : c.isDigit) :
    ofChar? c = some (.digit (c.toNat - '0'.toNat)) := by
  simp [ofChar?, h]

theorem ofChar?_eq_none {c : Char} (h : ¬ IsSymbol c) : ofChar? c = none := by
  simp only [IsSymbol, List.mem_cons, List.not_mem_nil, or_false, not_or] at h
  obtain ⟨hd, hb, ho, hr, hs⟩ := h
  unfold ofChar?
  rw [if_neg hd]
  split <;> first | rfl | contradiction

end Symbol

namespace Item

def symbols : List Item → List Char
  | [] => []
  | header _ :: items => symbols items
  | symbol c _ :: items => if c = '!' then ['!'] else c :: symbols items

def headers : List Item → List (List Declaration)
  | [] => []
  | header ds :: items => ds :: headers items
  | symbol c _ :: items => if c = '!' then [] else headers items

end Item

namespace Reading

open Counting

variable {s : Reading} {p : Pattern} {digits : List Char} {c : Char} {position : Position}
  {items : List Item}

theorem pattern_eq_ok_iff :
    s.pattern = .ok p ↔ s.declared.width? = some p.width ∧ s.declared.height? = some p.height ∧
      p.tokens = s.tokens.toList := by
  unfold pattern
  split
  · rename_i hw hh
    rw [Pattern.ofTokens_eq_ok_iff, hw, hh, Option.some.injEq, Option.some.injEq,
      eq_comm (a := p.width), eq_comm (a := p.height)]
  · rename_i h
    constructor
    · intro he; cases he
    · rintro ⟨hw, hh, -⟩; exact absurd hh (h _ _ hw)

theorem run_digit (h : c.isDigit) :
    s.run word (.symbol c position :: items) =
      run word { s with count := word.append s.count (c.toNat - '0'.toNat) } items := by
  simp [run, Symbol.ofChar?_digit h, take]

theorem run_letter (position : Position) (items : List Item) (h : c ∈ ['b', 'o', '$'])
    (hcount : s.count = countOf digits) :
    ∃ tokens : Array Token, tokens.toList = s.tokens.toList ++ tokensOf (countOf digits) c ∧
      s.run word (.symbol c position :: items) = run word { s with count := 0, tokens } items := by
  simp only [List.mem_cons, List.not_mem_nil, or_false] at h
  rcases h with rfl | rfl | rfl
  · refine ⟨s.tokens.push (.dead (max 1 s.count)), ?_, rfl⟩
    simp [tokensOf, hcount, Nat.max_comm]
  · refine ⟨s.tokens.push (.alive (max 1 s.count)), ?_, rfl⟩
    simp [tokensOf, hcount, Nat.max_comm]
  · refine ⟨s.tokens ++ Array.replicate (word.rowEnds s.count) .rowEnd, ?_, rfl⟩
    have hrows : word.rowEnds s.count = min (max (countOf digits) 1) (side + 1) := by
      simp only [word, hcount]
      omega
    simp [tokensOf, hrows]

theorem run_stop : s.run word (.symbol '!' position :: items) = (s.take word .stop).pattern := rfl

theorem run_of_not_isSymbol (h : ¬ IsSymbol c) :
    s.run word (.symbol c position :: items) = .error (.unexpectedSymbol c position) := by
  simp only [run, Symbol.ofChar?_eq_none h]

/-- The run of a reader in which some digits wait for their letter. -/
theorem run_eq_ok_iff (hd : ∀ c ∈ digits, c.isDigit) (hcount : s.count = countOf digits) :
    s.run word items = .ok p ↔
      ∃ d ts, (Item.headers items).foldlM Declared.addLine s.declared = .ok d ∧
        Spells (digits ++ Item.symbols items) ts ∧
        d.width? = some p.width ∧ d.height? = some p.height ∧ p.tokens = s.tokens.toList ++ ts := by
  induction items generalizing s digits with
  | nil =>
    constructor
    · intro h; cases h
    · rintro ⟨_, _, -, h, -⟩
      exact absurd (by simpa [Item.symbols] using h) (not_spells_digits hd)
  | cons item items ih =>
    cases item with
    | header ds =>
      simp only [run, Item.headers, Item.symbols, List.foldlM_cons]
      cases s.declared.addLine ds with
      | error e => simp [bind, Except.bind]
      | ok declared => exact ih hd hcount
    | symbol c position =>
      rcases symbol_cases c with rfl | ⟨hc, hdigit | hletter | hsymbol⟩
      · rw [run_stop, pattern_eq_ok_iff]
        simp only [Item.headers, Item.symbols, if_true, spells_stop_iff hd]
        simp [take, pure, Except.pure]
      · have hd' : ∀ d ∈ digits ++ [c], d.isDigit :=
          List.forall_mem_append.mpr ⟨hd, by simpa using hdigit⟩
        rw [run_digit hdigit, Item.headers, Item.symbols, if_neg hc, if_neg hc,
          ih hd' (by rw [hcount, append_countOf])]
        simp
      · obtain ⟨tokens, htokens, hrun⟩ := run_letter position items hletter hcount
        rw [hrun, Item.headers, Item.symbols, if_neg hc, if_neg hc, ih (List.forall_mem_nil _) rfl]
        simp only [spells_letter_iff hd hletter, htokens, List.nil_append, List.append_assoc]
        constructor
        · rintro ⟨d, ts, hd', hts, hw, hh, heq⟩
          exact ⟨d, _, hd', ⟨ts, hts, rfl⟩, hw, hh, heq⟩
        · rintro ⟨d, _, hd', ⟨ts, hts, rfl⟩, hw, hh, heq⟩
          exact ⟨d, ts, hd', hts, hw, hh, heq⟩
      · rw [run_of_not_isSymbol hsymbol, Item.symbols, if_neg hc]
        constructor
        · intro h; cases h
        · rintro ⟨_, _, -, h, -⟩
          exact absurd (h.isSymbol c (by simp)) hsymbol

end Reading

namespace Item

variable {line : List Char} {lines : List (List Char)} {items : List Item} {k column : Nat}

theorem symbols_line (row : Nat) :
    symbols ((line.zipIdx column).map (fun (c, column) => symbol c ⟨row, column⟩) ++ items) =
      if '!' ∈ line then upToStop line else line ++ symbols items := by
  induction line generalizing column with
  | nil => rfl
  | cons c line ih =>
    rw [List.zipIdx_cons, List.map_cons, List.cons_append, symbols, ih, upToStop]
    by_cases hc : c = '!'
    · simp [hc]
    · simp only [List.mem_cons, Ne.symm hc, false_or, if_neg hc]
      split <;> rfl

theorem headers_line (row : Nat) :
    headers ((line.zipIdx column).map (fun (c, column) => symbol c ⟨row, column⟩) ++ items) =
      if '!' ∈ line then [] else headers items := by
  induction line generalizing column with
  | nil => rfl
  | cons c line ih =>
    rw [List.zipIdx_cons, List.map_cons, List.cons_append, headers, ih]
    by_cases hc : c = '!'
    · simp [hc]
    · simp [Ne.symm hc, hc]

end Item

theorem upToStop_append (cs ds : List Char) :
    upToStop (cs ++ ds) = if '!' ∈ cs then upToStop cs else cs ++ upToStop ds := by
  induction cs with
  | nil => rfl
  | cons c cs ih =>
    rw [List.cons_append, upToStop, upToStop, ih]
    by_cases hc : c = '!'
    · simp [hc]
    · simp only [List.mem_cons, Ne.symm hc, false_or, if_neg hc]
      split <;> rfl

theorem mem_of_mem_upToStop {c : Char} {cs : List Char} (h : c ∈ upToStop cs) : c ∈ cs := by
  induction cs with
  | nil => exact h
  | cons d cs ih =>
    rw [upToStop] at h
    split at h
    · rename_i hd
      rw [hd, List.mem_singleton.mp h]
      exact List.mem_cons_self
    · rcases List.mem_cons.mp h with rfl | h
      · exact List.mem_cons_self
      · exact List.mem_cons_of_mem _ (ih h)

section Lines

variable {line : List Char} {lines : List (List Char)} {row : Nat}

theorem not_isBody_of_isSkipped (h : IsSkipped line) : ¬ IsBody line := fun hb => hb.1 h

theorem not_isBody_of_isHeader (h : IsHeader line) : ¬ IsBody line := fun hb => hb.2 h

theorem not_isHeader_of_isSkipped (h : IsSkipped line) : ¬ IsHeader line := fun hh => hh.1 h

theorem line_cases (line : List Char) : IsSkipped line ∨ IsHeader line ∨ IsBody line := by
  by_cases hskip : IsSkipped line
  · exact Or.inl hskip
  · by_cases hhead : IsHeader line
    · exact Or.inr (Or.inl hhead)
    · exact Or.inr (Or.inr ⟨hskip, hhead⟩)

theorem headersOf_cons (line : List Char) (lines : List (List Char)) :
    headersOf (line :: lines) =
      if IsBody line ∧ '!' ∈ line then []
      else if IsHeader line then line :: headersOf lines else headersOf lines := by
  unfold headersOf
  rw [List.takeWhile_cons]
  by_cases hstop : IsBody line ∧ '!' ∈ line
  · simp [hstop]
  · by_cases hh : IsHeader line <;> simp [hstop, hh]

theorem bodyOf_cons (line : List Char) (lines : List (List Char)) :
    bodyOf (line :: lines) = if IsBody line then line ++ bodyOf lines else bodyOf lines := by
  by_cases h : IsBody line <;> simp [bodyOf, h]

theorem symbols_zipIdx (lines : List (List Char)) (row : Nat) :
    Item.symbols ((lines.zipIdx row).flatMap fun (line, row) => Item.ofLine row line) =
      symbolsOf lines := by
  induction lines generalizing row with
  | nil => rfl
  | cons line lines ih =>
    rw [List.zipIdx_cons, List.flatMap_cons, symbolsOf, bodyOf_cons]
    rcases line_cases line with hskip | hhead | hbody
    · simp only [if_neg (not_isBody_of_isSkipped hskip), Item.ofLine_of_isSkipped hskip]
      exact ih _
    · simp only [if_neg (not_isBody_of_isHeader hhead), Item.ofLine_of_isHeader hhead]
      exact ih _
    · simp only [if_pos hbody, Item.ofLine_of_not hbody.1 hbody.2, Item.symbols_line, ih,
        upToStop_append, symbolsOf]

theorem headers_zipIdx (lines : List (List Char)) (row : Nat) :
    Item.headers ((lines.zipIdx row).flatMap fun (line, row) => Item.ofLine row line) =
      (headersOf lines).map Declaration.ofLine := by
  induction lines generalizing row with
  | nil => rfl
  | cons line lines ih =>
    rw [List.zipIdx_cons, List.flatMap_cons, headersOf_cons]
    rcases line_cases line with hskip | hhead | hbody
    · simp only [not_isBody_of_isSkipped hskip, false_and, if_false,
        not_isHeader_of_isSkipped hskip, Item.ofLine_of_isSkipped hskip]
      exact ih _
    · simp only [not_isBody_of_isHeader hhead, false_and, if_false, if_pos hhead,
        Item.ofLine_of_isHeader hhead, List.map_cons, ← ih (row + 1)]
      rfl
    · simp only [hbody, true_and, if_neg hbody.2, Item.ofLine_of_not hbody.1 hbody.2,
        Item.headers_line, ih]
      split <;> rfl

end Lines

theorem read_eq_ok_iff {lines : List (List Char)} {p : Pattern} :
    read lines = .ok p ↔
      LegalHeaders (headersOf lines) ∧ lastIn .x (headersOf lines) = some p.width ∧
        lastIn .y (headersOf lines) = some p.height ∧ Spells (symbolsOf lines) p.tokens := by
  have hrun := @Reading.run_eq_ok_iff {} p [] (Item.ofLines lines) (List.forall_mem_nil _) rfl
  rw [Item.ofLines, symbols_zipIdx, headers_zipIdx] at hrun
  rw [read, readWith, Item.ofLines, hrun]
  simp only [Declared.addLines_eq_ok_iff, List.nil_append]
  constructor
  · rintro ⟨_, ts, ⟨hlegal, rfl⟩, hts, hw, hh, rfl⟩
    exact ⟨hlegal, hw, hh, hts⟩
  · rintro ⟨hlegal, hw, hh, hts⟩
    exact ⟨_, _, ⟨hlegal, rfl⟩, hts, hw, hh, by simp⟩

/-- The reader accepts a document if and only if its body has a `!`, holds only symbols up to there,
and the headers before declare a legal size; the symbols spell the tokens. -/
theorem read_grammar (lines : List (List Char)) :
    ((∃ p, read lines = .ok p) ↔
      '!' ∈ bodyOf lines ∧ (∀ c ∈ symbolsOf lines, IsSymbol c) ∧ LegalHeaders (headersOf lines) ∧
        ∀ axis, ∃ n, lastIn axis (headersOf lines) = some n) ∧
      ∀ p, read lines = .ok p ↔
        LegalHeaders (headersOf lines) ∧ lastIn .x (headersOf lines) = some p.width ∧
          lastIn .y (headersOf lines) = some p.height ∧ Spells (symbolsOf lines) p.tokens := by
  refine ⟨?_, fun p => read_eq_ok_iff⟩
  constructor
  · rintro ⟨p, hp⟩
    obtain ⟨hlegal, hw, hh, hts⟩ := read_eq_ok_iff.mp hp
    refine ⟨mem_of_mem_upToStop hts.stop_mem, hts.isSymbol, hlegal, fun axis => ?_⟩
    cases axis
    · exact ⟨_, hw⟩
    · exact ⟨_, hh⟩
  · rintro ⟨hstop, hsymbols, hlegal, hset⟩
    obtain ⟨ts, hts⟩ := exists_spells (List.forall_mem_nil _) hstop hsymbols
    obtain ⟨w, hw⟩ := hset .x
    obtain ⟨h, hh⟩ := hset .y
    have hfits := hlegal.2 _ List.prefix_rfl
    have hwle := hfits .x
    have hhle := hfits .y
    rw [hw] at hwle
    rw [hh] at hhle
    exact ⟨⟨w, h, ts, hwle, hhle⟩, read_eq_ok_iff.mpr ⟨hlegal, hw, hh, hts⟩⟩

end LifeRom.Rle
