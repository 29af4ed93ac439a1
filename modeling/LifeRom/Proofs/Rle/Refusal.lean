import LifeRom.Proofs.Faults
import LifeRom.Proofs.Rle.Grammar

/-! # Refused run-length documents

A document is refused for the first of its lines that is at fault, up to the line of the first `!`,
or else if its size is not declared or its body is not ended.
-/

namespace LifeRom.Rle

open Text

/-- A body line with a `!`. -/
def EndsBody (line : List Char) : Prop := IsBody line ∧ '!' ∈ line

instance : DecidablePred EndsBody := fun _ => inferInstanceAs (Decidable (_ ∧ _))

/-- The lines up to and including that of the first `!`. -/
def upToEnd : List (List Char) → List (List Char)
  | [] => []
  | line :: lines => if EndsBody line then [line] else line :: upToEnd lines

/-- The fault of a text between two commas of a header line: a value that is no number in a word. -/
def pairFault? (pair : List Char) : Option Fault :=
  [Axis.x, Axis.y].findSome? fun axis =>
    ((valueIn? axis pair).filter (word? · = none)).map fun value =>
      .badSize axis (String.ofList value)

/-- The fault of the size in force after header lines, which is 0 where they declare none. -/
def sizeFault? (headers : List (List Char)) : Option Fault :=
  let width := (lastIn .x headers).getD 0
  let height := (lastIn .y headers).getD 0
  if width ≤ side ∧ height ≤ side then none else some (.tooLarge width height)

def lineFault? (before : List (List Char)) (line : List Char) : Option Fault :=
  if IsHeader line then
    ((line.splitOn ',').findSome? pairFault?).or (sizeFault? (headersOf before ++ [line]))
  else if IsBody line then Fault.stray? IsSymbol ⟨before.length + 1, 1⟩ (upToStop line)
  else none

def Refused (lines : List (List Char)) (e : Fault) : Prop :=
  Fault.First lineFault? (upToEnd lines) e ∨
    Fault.Free lineFault? (upToEnd lines) ∧
      ((∃ axis, lastIn axis (headersOf lines) = none) ∧ e = .sizeMissing ∨
        (∀ axis, lastIn axis (headersOf lines) ≠ none) ∧ '!' ∉ bodyOf lines ∧ e = .unterminated)

section Headers

open Declaration

theorem number?_eq_word? (d : Declaration) : d.number? = word? d.value := rfl

theorem pairFault?_eq (pair : List Char) :
    pairFault? pair = ((ofField? pair).filter (·.number? = none)).map fun d =>
      .badSize d.axis (String.ofList d.value) := by
  simp only [pairFault?, valueIn?_eq]
  rcases ofField? pair with _ | ⟨_ | _, value⟩
  · rfl
  · cases hn : word? value <;> simp [Option.filter, number?_eq_word?, hn]
  · cases hn : word? value <;> simp [Option.filter, number?_eq_word?, hn]

theorem pairFault?_eq_some_iff {pair : List Char} {e : Fault} :
    pairFault? pair = some e ↔ ∃ axis value, valueIn? axis pair = some value ∧
      word? value = none ∧ e = .badSize axis (String.ofList value) := by
  simp only [pairFault?_eq, valueIn?_eq, Option.map_eq_some_iff,
    Option.filter_eq_some_iff, decide_eq_true_eq]
  constructor
  · rintro ⟨d, ⟨hd, hword⟩, rfl⟩
    exact ⟨d.axis, d.value, ⟨d, ⟨hd, rfl⟩, rfl⟩, hword, rfl⟩
  · rintro ⟨_, _, ⟨d, ⟨hd, rfl⟩, rfl⟩, hword, rfl⟩
    exact ⟨d, ⟨hd, hword⟩, rfl⟩

namespace Declared

def ofHeaders (headers : List (List Char)) : Declared :=
  ⟨lastIn .x headers, lastIn .y headers⟩

theorem ofHeaders_eq (headers : List (List Char)) :
    ofHeaders headers = after (headers.flatMap Declaration.ofLine) :=
  (after_ofLine headers).symm

theorem foldlM_add_filterMap (ds : List Declaration) (pairs : List (List Char)) :
    (pairs.filterMap ofField?).foldlM add (after ds) =
      (pairs.findSome? pairFault?).elim (.ok (after (ds ++ pairs.filterMap ofField?))) .error := by
  induction pairs generalizing ds with
  | nil => simp [pure, Except.pure]
  | cons pair pairs ih =>
    rw [List.findSome?_cons, pairFault?_eq]
    cases hd : ofField? pair with
    | none => simpa [hd] using ih ds
    | some d =>
      rw [List.filterMap_cons_some hd, List.foldlM_cons]
      cases hn : d.number? with
      | none => simp [add, hn, Option.filter, bind, Except.bind]
      | some n =>
        have hih := ih (ds ++ [d])
        rw [List.append_assoc] at hih
        rw [add_after ds hn]
        simpa [hn, Option.filter, bind, Except.bind] using hih

theorem checked_ofHeaders (headers : List (List Char)) :
    (ofHeaders headers).checked =
      (sizeFault? headers).elim (.ok (ofHeaders headers)) .error := by
  simp only [checked, sizeFault?]
  by_cases h : (lastIn .x headers).getD 0 ≤ side ∧ (lastIn .y headers).getD 0 ≤ side
  · simp [ofHeaders, h]
  · simp [ofHeaders, h]

theorem addLine_ofHeaders (headers : List (List Char)) (line : List Char) :
    (ofHeaders headers).addLine (Declaration.ofLine line) =
      (((line.splitOn ',').findSome? pairFault?).or (sizeFault? (headers ++ [line]))).elim
        (.ok (ofHeaders (headers ++ [line]))) .error := by
  have hlast : after (headers.flatMap Declaration.ofLine ++
      (line.splitOn ',').filterMap ofField?) = ofHeaders (headers ++ [line]) := by
    rw [ofHeaders_eq, List.flatMap_append, List.flatMap_singleton, Declaration.ofLine,
      fields_eq_splitOn]
  rw [addLine, ofHeaders_eq, Declaration.ofLine, fields_eq_splitOn, foldlM_add_filterMap, hlast]
  cases (line.splitOn ',').findSome? pairFault? with
  | none => exact checked_ofHeaders _
  | some e => rfl

theorem inField_ofHeaders_iff {headers : List (List Char)} :
    (ofHeaders headers).InField ↔ sizeFault? headers = none := by
  simp [InField, sizeFault?, ofHeaders]

theorem exists_lastIn_eq_none_iff {headers : List (List Char)} :
    (∃ axis, lastIn axis headers = none) ↔
      (ofHeaders headers).width? = none ∨ (ofHeaders headers).height? = none := by
  constructor
  · rintro ⟨_ | _, h⟩
    · exact Or.inl h
    · exact Or.inr h
  · rintro (h | h)
    · exact ⟨.x, h⟩
    · exact ⟨.y, h⟩

end Declared

end Headers

namespace Reading

open Counting

variable {s : Reading} {line : List Char} {e : Fault} {row column : Nat}

theorem exists_run_symbol {c : Char} (s : Reading) (hc : IsSymbol c) (hstop : c ≠ '!') :
    ∃ s' : Reading, s'.declared = s.declared ∧
      ∀ position items, s.run word (.symbol c position :: items) = s'.run word items := by
  rcases symbol_cases c with rfl | ⟨-, hdigit | hletter | hsymbol⟩
  · exact absurd rfl hstop
  · exact ⟨{ s with count := word.append s.count (c.toNat - '0'.toNat) }, rfl,
      fun _ _ => run_digit hdigit⟩
  · simp only [List.mem_cons, List.not_mem_nil, or_false] at hletter
    rcases hletter with rfl | rfl | rfl
    · exact ⟨s.take word .dead, rfl, fun _ _ => rfl⟩
    · exact ⟨s.take word .alive, rfl, fun _ _ => rfl⟩
    · exact ⟨s.take word .rowEnd, rfl, fun _ _ => rfl⟩
  · exact absurd hc hsymbol

theorem exists_run_symbols (s : Reading) (row column : Nat) (line : List Char) :
    ∃ s' : Reading, s'.declared = s.declared ∧ ∀ items,
      s.run word ((line.zipIdx column).map (fun (c, column) => .symbol c ⟨row, column⟩) ++ items) =
        (Fault.stray? IsSymbol ⟨row, column⟩ (upToStop line)).elim
          (if '!' ∈ line then s'.pattern else s'.run word items) .error := by
  induction line generalizing s column with
  | nil => exact ⟨s, rfl, fun items => rfl⟩
  | cons c line ih =>
    simp only [List.zipIdx_cons, List.map_cons, List.cons_append, upToStop]
    by_cases hstop : c = '!'
    · subst hstop
      exact ⟨s.take word .stop, rfl, fun items => by simp [run_stop, Fault.stray?, IsSymbol]⟩
    · simp only [if_neg hstop, List.mem_cons, Ne.symm hstop, false_or, Fault.stray?]
      by_cases hc : IsSymbol c
      · obtain ⟨s', hdeclared, hs'⟩ := s.exists_run_symbol hc hstop
        obtain ⟨t, ht, hrun⟩ := ih s' (column + 1)
        refine ⟨t, ht.trans hdeclared, fun items => ?_⟩
        rw [hs', hrun, if_pos hc]
      · refine ⟨s, rfl, fun items => ?_⟩
        rw [run_of_not_isSymbol hc, if_neg hc]
        rfl

end Reading

theorem upToStop_prefix_self (cs : List Char) : upToStop cs <+: cs := by
  induction cs with
  | nil => exact List.prefix_rfl
  | cons c cs ih =>
    rw [upToStop]
    split
    · next h => exact ⟨cs, by rw [h]; rfl⟩
    · exact List.cons_prefix_cons.mpr ⟨rfl, ih⟩

section Lines

variable {before lines : List (List Char)} {line : List Char}

theorem not_endsBody_of_isHeader (h : IsHeader line) : ¬ EndsBody line := fun he =>
  not_isBody_of_isHeader h he.1

theorem not_endsBody_of_isSkipped (h : IsSkipped line) : ¬ EndsBody line := fun he =>
  not_isBody_of_isSkipped h he.1

theorem lineFault?_of_isSkipped (h : IsSkipped line) : lineFault? before line = none := by
  rw [lineFault?, if_neg (not_isHeader_of_isSkipped h), if_neg (not_isBody_of_isSkipped h)]

theorem lineFault?_of_isHeader (h : IsHeader line) :
    lineFault? before line =
      ((line.splitOn ',').findSome? pairFault?).or (sizeFault? (headersOf before ++ [line])) :=
  if_pos h

theorem lineFault?_of_isBody (h : IsBody line) :
    lineFault? before line = Fault.stray? IsSymbol ⟨before.length + 1, 1⟩ (upToStop line) := by
  rw [lineFault?, if_neg h.2, if_pos h]

theorem headersOf_cons_of_endsBody (h : EndsBody line) (lines : List (List Char)) :
    headersOf (line :: lines) = [] := by
  rw [EndsBody] at h
  rw [headersOf_cons, if_pos h]

theorem headersOf_cons_of_not_endsBody (h : ¬ EndsBody line) (lines : List (List Char)) :
    headersOf (line :: lines) =
      if IsHeader line then line :: headersOf lines else headersOf lines := by
  rw [EndsBody] at h
  rw [headersOf_cons, if_neg h]

theorem headersOf_append (h : ∀ line ∈ before, ¬ EndsBody line) (lines : List (List Char)) :
    headersOf (before ++ lines) = headersOf before ++ headersOf lines := by
  induction before with
  | nil => rfl
  | cons line before ih =>
    rw [List.forall_mem_cons] at h
    rw [List.cons_append, headersOf_cons_of_not_endsBody h.1, headersOf_cons_of_not_endsBody h.1,
      ih h.2]
    split <;> rfl

theorem headersOf_singleton (line : List Char) :
    headersOf [line] = if IsHeader line then [line] else [] := by
  have hnil : headersOf [] = [] := rfl
  rw [headersOf_cons, hnil]
  by_cases h : IsHeader line
  · simp [not_isBody_of_isHeader h, h]
  · simp [h]

end Lines

namespace Reading

open Counting

/-- The reader has read the lines `before`, none of which ends the document or is at fault. -/
structure Behind (before : List (List Char)) (s : Reading) : Prop where
  goesOn : ∀ line ∈ before, ¬ EndsBody line
  declared : s.declared = .ofHeaders (headersOf before)
  inField : s.declared.InField

variable {s : Reading} {before lines : List (List Char)} {line : List Char} {e : Fault}

theorem behind_nil : Behind [] {} where
  goesOn := List.forall_mem_nil _
  declared := rfl
  inField := ⟨Nat.zero_le _, Nat.zero_le _⟩

theorem Behind.headersOf_concat (h : Behind before s) (line : List Char) :
    headersOf (before ++ [line]) =
      if IsHeader line then headersOf before ++ [line] else headersOf before := by
  rw [headersOf_append h.goesOn, headersOf_singleton]
  split
  · rfl
  · exact List.append_nil _

theorem Behind.concat {s' : Reading} (h : Behind before s) (hend : ¬ EndsBody line)
    (hh : ¬ IsHeader line) (hs' : s'.declared = s.declared) : Behind (before ++ [line]) s' where
  goesOn := List.forall_mem_append.mpr ⟨h.goesOn, by simpa using hend⟩
  declared := by rw [hs', h.declared, h.headersOf_concat, if_neg hh]
  inField := hs' ▸ h.inField

theorem Behind.run_header (h : Behind before s) (hh : IsHeader line) (items : List Item) :
    s.run word (Item.ofLine (before.length + 1) line ++ items) =
      (lineFault? before line).elim
        (run word { s with declared := .ofHeaders (headersOf (before ++ [line])) } items)
        .error := by
  rw [Item.ofLine_of_isHeader hh, List.singleton_append, run, h.declared,
    Declared.addLine_ofHeaders, lineFault?_of_isHeader hh, h.headersOf_concat, if_pos hh]
  cases ((line.splitOn ',').findSome? pairFault?).or (sizeFault? (headersOf before ++ [line])) <;>
    rfl

theorem exists_run_body (s : Reading) (before : List (List Char)) (hb : IsBody line) :
    ∃ s' : Reading, s'.declared = s.declared ∧ ∀ items,
      s.run word (Item.ofLine (before.length + 1) line ++ items) =
        (lineFault? before line).elim (if '!' ∈ line then s'.pattern else s'.run word items)
          .error := by
  rw [Item.ofLine_of_not hb.1 hb.2, lineFault?_of_isBody hb]
  exact s.exists_run_symbols _ 1 line

theorem Behind.run_of_fault (h : Behind before s) (he : lineFault? before line = some e)
    (items : List Item) :
    s.run word (Item.ofLine (before.length + 1) line ++ items) = .error e := by
  rcases line_cases line with hskip | hhead | hbody
  · rw [lineFault?_of_isSkipped hskip] at he
    cases he
  · rw [h.run_header hhead, he, Option.elim_some]
  · obtain ⟨s', -, hrun⟩ := s.exists_run_body before hbody
    rw [hrun, he, Option.elim_some]

theorem Behind.exists_run (h : Behind before s) (hfree : lineFault? before line = none)
    (hend : ¬ EndsBody line) :
    ∃ s' : Reading, Behind (before ++ [line]) s' ∧ ∀ items,
      s.run word (Item.ofLine (before.length + 1) line ++ items) = s'.run word items := by
  rcases line_cases line with hskip | hhead | hbody
  · refine ⟨s, h.concat hend (not_isHeader_of_isSkipped hskip) rfl, fun items => ?_⟩
    rw [Item.ofLine_of_isSkipped hskip, List.nil_append]
  · have hsize : sizeFault? (headersOf (before ++ [line])) = none := by
      rw [lineFault?_of_isHeader hhead, Option.or_eq_none_iff] at hfree
      rw [h.headersOf_concat, if_pos hhead]
      exact hfree.2
    refine ⟨{ s with declared := .ofHeaders (headersOf (before ++ [line])) },
      ⟨?_, rfl, Declared.inField_ofHeaders_iff.mpr hsize⟩, fun items => ?_⟩
    · exact List.forall_mem_append.mpr ⟨h.goesOn, by simpa using hend⟩
    · rw [h.run_header hhead, hfree, Option.elim_none]
  · obtain ⟨s', hs', hrun⟩ := s.exists_run_body before hbody
    refine ⟨s', h.concat hend hbody.2 hs', fun items => ?_⟩
    rw [hrun, hfree, Option.elim_none, if_neg fun hstop => hend ⟨hbody, hstop⟩]

theorem exists_pattern (s : Reading) (hfree : lineFault? before line = none) (hend : EndsBody line) :
    ∃ s' : Reading, s'.declared = s.declared ∧ ∀ items,
      s.run word (Item.ofLine (before.length + 1) line ++ items) = s'.pattern := by
  obtain ⟨s', hs', hrun⟩ := s.exists_run_body before hend.1
  refine ⟨s', hs', fun items => ?_⟩
  rw [hrun, hfree, Option.elim_none, if_pos hend.2]

theorem unfinished_eq (s : Reading) :
    s.unfinished =
      if s.declared.width? = none ∨ s.declared.height? = none then .sizeMissing
      else .unterminated := by
  rcases hd : s.declared with ⟨_ | width, _ | height⟩ <;> simp [unfinished, hd]

theorem pattern_eq_error_iff (h : s.declared.InField) :
    s.pattern = .error e ↔
      (s.declared.width? = none ∨ s.declared.height? = none) ∧ e = .sizeMissing := by
  rcases hd : s.declared with ⟨_ | width, _ | height⟩
  · simp [pattern, hd, eq_comm]
  · simp [pattern, hd, eq_comm]
  · simp [pattern, hd, eq_comm]
  · rw [hd] at h
    have hok : ¬ ∃ e, Pattern.ofTokens width height s.tokens.toList = .error e := by
      rintro ⟨e, he⟩
      have := (Pattern.ofTokens_eq_error_iff.mp he).1
      have := h.1
      have := h.2
      simp only [Option.getD_some] at *
      omega
    simp only [pattern, hd, reduceCtorEq, or_self, false_and, iff_false]
    exact fun he => hok ⟨e, he⟩

/-- The lines that a document is read from, and what the reader is left with behind them. -/
theorem exists_behind (hfree : Fault.Free lineFault? before)
    (hgoesOn : ∀ line ∈ before, ¬ EndsBody line) :
    ∃ s : Reading, Behind before s ∧ ∀ rest, read (before ++ rest) =
      s.run word ((rest.zipIdx (before.length + 1)).flatMap fun (line, row) =>
        Item.ofLine row line) := by
  -- from the last of the lines, since a fault depends on all those above it
  induction before using List.reverseRecOn with
  | nil => exact ⟨{}, behind_nil, fun rest => rfl⟩
  | append_singleton before line ih =>
    rw [Fault.free_concat] at hfree
    rw [List.forall_mem_append] at hgoesOn
    obtain ⟨s, hs, hread⟩ := ih hfree.1 hgoesOn.1
    obtain ⟨s', hs', hrun⟩ := hs.exists_run hfree.2 (hgoesOn.2 line (List.mem_singleton_self _))
    refine ⟨s', hs', fun rest => ?_⟩
    rw [List.append_assoc, List.singleton_append, hread, List.zipIdx_cons, List.flatMap_cons, hrun,
      List.length_append, List.length_singleton]

end Reading

variable {lines before : List (List Char)} {line : List Char} {e : Fault}

theorem upToEnd_cases (lines : List (List Char)) :
    ((∀ line ∈ lines, ¬ EndsBody line) ∧ upToEnd lines = lines) ∨
      ∃ before line after, lines = before ++ line :: after ∧ (∀ l ∈ before, ¬ EndsBody l) ∧
        EndsBody line ∧ upToEnd lines = before ++ [line] := by
  induction lines with
  | nil => exact Or.inl ⟨List.forall_mem_nil _, rfl⟩
  | cons l lines ih =>
    rw [upToEnd]
    by_cases hl : EndsBody l
    · rw [if_pos hl]
      exact Or.inr ⟨[], l, lines, rfl, List.forall_mem_nil _, hl, rfl⟩
    · rw [if_neg hl]
      rcases ih with ⟨hlines, heq⟩ | ⟨before, line, after, rfl, hbefore, hend, heq⟩
      · exact Or.inl ⟨List.forall_mem_cons.mpr ⟨hl, hlines⟩, by rw [heq]⟩
      · exact Or.inr ⟨l :: before, line, after, rfl, List.forall_mem_cons.mpr ⟨hl, hbefore⟩, hend,
          by rw [heq]; rfl⟩

theorem stop_mem_bodyOf_iff : '!' ∈ bodyOf lines ↔ ∃ line ∈ lines, EndsBody line := by
  simp [bodyOf, EndsBody, and_assoc]

theorem prefix_of_upToEnd (h : before ++ [line] <+: upToEnd lines) :
    before ++ [line] <+: lines ∧ ∀ l ∈ before, ¬ EndsBody l := by
  rcases upToEnd_cases lines with ⟨hlines, heq⟩ | ⟨b, l, after, rfl, hb, -, heq⟩
  · rw [heq] at h
    exact ⟨h, fun l hl => hlines l (h.subset (List.mem_append_left _ hl))⟩
  · rw [heq] at h
    refine ⟨h.trans ⟨after, by simp⟩, fun l' hl' => ?_⟩
    rcases List.prefix_concat_iff.mp h with heq' | hp
    · obtain ⟨rfl, -⟩ := List.append_inj' heq' rfl
      exact hb l' hl'
    · exact hb l' (hp.subset (List.mem_append_left _ hl'))

theorem read_of_first (h : Fault.First lineFault? (upToEnd lines) e) : read lines = .error e := by
  obtain ⟨before, line, hp, hfree, he⟩ := h
  obtain ⟨⟨after, rfl⟩, hgoesOn⟩ := prefix_of_upToEnd hp
  obtain ⟨s, hs, hread⟩ := Reading.exists_behind hfree hgoesOn
  rw [List.append_assoc, hread, List.singleton_append, List.zipIdx_cons, List.flatMap_cons,
    hs.run_of_fault he]

theorem read_of_free (h : Fault.Free lineFault? (upToEnd lines)) :
    read lines = .error e ↔
      (∃ axis, lastIn axis (headersOf lines) = none) ∧ e = .sizeMissing ∨
        (∀ axis, lastIn axis (headersOf lines) ≠ none) ∧ '!' ∉ bodyOf lines ∧
          e = .unterminated := by
  rw [stop_mem_bodyOf_iff]
  rcases upToEnd_cases lines with ⟨hlines, heq⟩ | ⟨before, line, after, rfl, hbefore, hend, heq⟩
  · rw [heq] at h
    obtain ⟨s, hs, hread⟩ := Reading.exists_behind h hlines
    have hread : read lines = .error s.unfinished := by
      rw [← List.append_nil lines, hread []]
      rfl
    rw [hread, Except.error.injEq, s.unfinished_eq, hs.declared, eq_comm (b := e)]
    have hopen : ¬ ∃ line ∈ lines, EndsBody line := fun ⟨line, hl, hend⟩ => hlines line hl hend
    by_cases hmissing : ∃ axis, lastIn axis (headersOf lines) = none
    · rw [if_pos (Declared.exists_lastIn_eq_none_iff.mp hmissing)]
      simp only [ne_eq, ← not_exists, hmissing, not_true_eq_false, false_and, or_false, true_and]
    · rw [if_neg fun h => hmissing (Declared.exists_lastIn_eq_none_iff.mpr h)]
      simp only [ne_eq, ← not_exists, hmissing, hopen, not_false_eq_true, false_and, false_or,
        true_and]
  · rw [heq, Fault.free_concat] at h
    obtain ⟨s, hs, hread⟩ := Reading.exists_behind h.1 hbefore
    obtain ⟨s', hs', hrun⟩ := s.exists_pattern h.2 hend
    rw [hread, List.zipIdx_cons, List.flatMap_cons, hrun,
      Reading.pattern_eq_error_iff (hs' ▸ hs.inField)]
    have hclosed : ∃ l ∈ before ++ line :: after, EndsBody l := ⟨line, by simp, hend⟩
    have hheaders : headersOf (before ++ line :: after) = headersOf before := by
      rw [headersOf_append hbefore, headersOf_cons_of_endsBody hend, List.append_nil]
    simp only [hs', hs.declared, ← Declared.exists_lastIn_eq_none_iff, hheaders, hclosed,
      not_true_eq_false, false_and, and_false, or_false]

theorem read_eq_error_iff : read lines = .error e ↔ Refused lines e :=
  Fault.eq_error_iff (fun _ => read_of_first) read_of_free

theorem lineFault?_cases {cs : List Char} (h : lineFault? before cs = some e) :
    (∃ axis text, e = .badSize axis text ∧ word? text.toList = none) ∨
      (∃ width height, e = .tooLarge width height) ∨
      ∃ c k, e = .unexpectedSymbol c ⟨before.length + 1, k + 1⟩ ∧ cs[k]? = some c := by
  rw [lineFault?] at h
  split at h
  · rcases Option.or_eq_some_iff.mp h with h | ⟨-, h⟩
    · obtain ⟨pair, -, hpair⟩ := List.exists_of_findSome?_eq_some h
      obtain ⟨axis, value, -, hword, rfl⟩ := pairFault?_eq_some_iff.mp hpair
      exact Or.inl ⟨axis, _, rfl, by rwa [String.toList_ofList]⟩
    · rw [sizeFault?, Option.ite_none_left_eq_some, Option.some.injEq] at h
      exact Or.inr (Or.inl ⟨_, _, h.2.symm⟩)
  · rw [Option.ite_none_right_eq_some] at h
    obtain ⟨c, k, rfl, hk⟩ := Fault.exists_of_stray? h.2
    obtain ⟨hlt, rfl⟩ := List.getElem?_eq_some_iff.mp hk
    exact Or.inr (Or.inr ⟨_, k, rfl, List.prefix_iff_getElem?.mp (upToStop_prefix_self cs) k hlt⟩)

theorem symbolIn?_of_read {c : Char} {position : Position}
    (h : read lines = .error (.unexpectedSymbol c position)) :
    position.symbolIn? lines = some c := by
  rcases read_eq_error_iff.mp h with ⟨before, line, hp, -, he⟩ | ⟨-, ⟨-, he⟩ | ⟨-, -, he⟩⟩
  · rcases lineFault?_cases he with ⟨_, _, he, -⟩ | ⟨_, _, he⟩ | ⟨d, k, he, hk⟩
    · cases he
    · cases he
    · cases he
      rw [Position.symbolIn?_of_prefix (prefix_of_upToEnd hp).1, hk]
  · cases he
  · cases he

end LifeRom.Rle
