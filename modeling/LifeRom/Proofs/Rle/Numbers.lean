import LifeRom.Format
import LifeRom.Proofs.Rle.Refusal

/-! # Numbers in headers

A header value is refused as no number if it is none or does not fit a word. So numerals beyond the
words are called what they are not; the reader of run lengths stops at the largest word instead.
-/

namespace LifeRom.Rle

open Text

variable {line value : List Char} {lines before : List (List Char)} {axis : Axis} {e : Fault}

theorem mem_valuesIn_singleton :
    value ∈ valuesIn axis [line] ↔ ∃ pair ∈ line.splitOn ',', valueIn? axis pair = some value := by
  simp [valuesIn]

theorem findSome?_pairFault?_eq_some
    (h : (line.splitOn ',').findSome? pairFault? = some e) :
    ∃ axis, ∃ value ∈ valuesIn axis [line], word? value = none ∧
      e = .badSize axis (String.ofList value) := by
  obtain ⟨pair, hpair, he⟩ := List.exists_of_findSome?_eq_some h
  obtain ⟨axis, value, hvalue, hword, rfl⟩ := pairFault?_eq_some_iff.mp he
  exact ⟨axis, value, mem_valuesIn_singleton.mpr ⟨pair, hpair, hvalue⟩, hword, rfl⟩

theorem findSome?_pairFault?_eq_none_iff :
    (line.splitOn ',').findSome? pairFault? = none ↔
      ∀ axis, ∀ value ∈ valuesIn axis [line], word? value ≠ none := by
  rw [List.findSome?_eq_none_iff]
  constructor
  · intro h axis value hvalue hword
    obtain ⟨pair, hpair, hvalue⟩ := mem_valuesIn_singleton.mp hvalue
    have hfault := pairFault?_eq_some_iff.mpr ⟨axis, value, hvalue, hword, rfl⟩
    rw [h pair hpair] at hfault
    cases hfault
  · intro h pair hpair
    apply Option.eq_none_iff_forall_ne_some.mpr
    intro e he
    obtain ⟨axis, value, hvalue, hword, -⟩ := pairFault?_eq_some_iff.mp he
    exact h axis value (mem_valuesIn_singleton.mpr ⟨pair, hpair, hvalue⟩) hword

/-- The size in force behind header lines, with 0 for an axis that is not declared. -/
def sizeIn (axis : Axis) (headers : List (List Char)) : Nat :=
  (lastIn axis headers).getD 0

theorem sizeFault?_of_lt {headers : List (List Char)} (h : side < sizeIn axis headers) :
    sizeFault? headers = some (.tooLarge (sizeIn .x headers) (sizeIn .y headers)) := by
  apply if_neg
  rintro ⟨hx, hy⟩
  cases axis with
  | x => exact absurd hx (Nat.not_le_of_lt h)
  | y => exact absurd hy (Nat.not_le_of_lt h)

/-- The header line gives one value for the axis, a numeral of any length beyond the field, and
legal values for the other axis. -/
structure Oversized (axis : Axis) (value line : List Char) : Prop where
  header : IsHeader line
  values : valuesIn axis [line] = [value]
  numeral : Numeral.IsNumeral value
  large : side < Numeral.value value
  others : ∀ other ≠ axis, ∀ v ∈ valuesIn other [line], word? v ≠ none

namespace Oversized

theorem sizeIn_concat (h : Oversized axis value line) (hle : Numeral.value value ≤ maxWord)
    (headers : List (List Char)) : sizeIn axis (headers ++ [line]) = Numeral.value value := by
  have hvalues : valuesIn axis (headers ++ [line]) = valuesIn axis headers ++ [value] := by
    rw [← h.values, valuesIn, List.flatMap_append, ← valuesIn, ← valuesIn]
  rw [sizeIn, lastIn, hvalues, List.getLast?_concat, Option.bind_some,
    word?_eq_some h.numeral hle, Option.getD_some]

theorem lineFault?_of_le (h : Oversized axis value line) (hle : Numeral.value value ≤ maxWord) :
    lineFault? before line = some (.tooLarge (sizeIn .x (headersOf before ++ [line]))
      (sizeIn .y (headersOf before ++ [line]))) := by
  have hpairs : (line.splitOn ',').findSome? pairFault? = none := by
    apply findSome?_pairFault?_eq_none_iff.mpr
    intro other v hv
    by_cases hother : other = axis
    · subst hother
      rw [h.values, List.mem_singleton] at hv
      rw [hv, word?_eq_some h.numeral hle]
      nofun
    · exact h.others other hother v hv
  have hlarge : side < sizeIn axis (headersOf before ++ [line]) := by
    rw [h.sizeIn_concat hle]
    exact h.large
  rw [lineFault?_of_isHeader h.header, hpairs, Option.none_or, sizeFault?_of_lt hlarge]

/-- A number that does not fit a word is the first value of its line at fault: no other one is. -/
theorem lineFault?_of_lt (h : Oversized axis value line) (hlt : maxWord < Numeral.value value) :
    lineFault? before line = some (.badSize axis (String.ofList value)) := by
  rw [lineFault?_of_isHeader h.header]
  cases hpairs : (line.splitOn ',').findSome? pairFault? with
  | none =>
    have hmem : value ∈ valuesIn axis [line] := h.values ▸ List.mem_singleton_self value
    have hword := findSome?_pairFault?_eq_none_iff.mp hpairs axis value hmem
    exact absurd ((word?_eq_none_iff h.numeral).mpr hlt) hword
  | some e =>
    obtain ⟨axis', v, hv, hword, rfl⟩ := findSome?_pairFault?_eq_some hpairs
    obtain rfl : axis' = axis := by
      by_contra hother
      exact h.others axis' hother v hv hword
    rw [h.values, List.mem_singleton] at hv
    rw [hv, Option.some_or]

end Oversized

theorem word?_of_read {text : String} (h : read lines = .error (.badSize axis text)) :
    word? text.toList = none := by
  rcases read_eq_error_iff.mp h with ⟨before, line, -, -, he⟩ | ⟨-, ⟨-, he⟩ | ⟨-, -, he⟩⟩
  · rcases lineFault?_cases he with ⟨_, _, heq, hword⟩ | ⟨_, _, heq⟩ | ⟨_, _, heq, -⟩
    · cases heq
      exact hword
    · cases heq
    · cases heq
  · cases he
  · cases he

/-- A numeral beyond the field that is the first fault makes the size in force too large, with that
number in it, but is refused as no number where it does not fit a word. -/
theorem read_header_number (lines : List (List Char)) :
    (∀ axis text, read lines = .error (.badSize axis text) →
        Numeral.IsNumeral text.toList → maxWord < Numeral.value text.toList) ∧
      ∀ before line axis value, before ++ [line] <+: upToEnd lines →
        Fault.Free lineFault? before → Oversized axis value line →
        (Numeral.value value ≤ maxWord →
          sizeIn axis (headersOf before ++ [line]) = Numeral.value value ∧
            read lines = .error (.tooLarge (sizeIn .x (headersOf before ++ [line]))
              (sizeIn .y (headersOf before ++ [line])))) ∧
        (maxWord < Numeral.value value →
          read lines = .error (.badSize axis (String.ofList value))) := by
  constructor
  · intro axis text h hnumeral
    exact (word?_eq_none_iff hnumeral).mp (word?_of_read h)
  · intro before line axis value hp hfree h
    constructor
    · intro hle
      exact ⟨h.sizeIn_concat hle _, read_of_first ⟨before, line, hp, hfree, h.lineFault?_of_le hle⟩⟩
    · intro hlt
      exact read_of_first ⟨before, line, hp, hfree, h.lineFault?_of_lt hlt⟩

/-- The largest word as a height, below a comment, and the number behind it as a width. -/
theorem read_header_number_largest_word :
    read ["# size".toList, "x = 7, y = 18446744073709551615".toList, "q".toList] =
        .error (.tooLarge 7 18446744073709551615) ∧
      read ["x = 18446744073709551616".toList] = .error (.badSize .x "18446744073709551616") ∧
      maxWord < Numeral.value "18446744073709551616".toList := by
  have hfree : Fault.Free lineFault? ([] ++ ["# size".toList]) :=
    Fault.free_concat.mpr ⟨Fault.free_nil, by decide⟩
  have hline : Oversized .y "18446744073709551615".toList
      "x = 7, y = 18446744073709551615".toList := by
    refine ⟨by decide, by decide, by decide, by decide, ?_⟩
    intro other hother
    cases other with
    | x => decide
    | y => exact absurd rfl hother
  obtain ⟨hfits, -⟩ := (read_header_number
    ["# size".toList, "x = 7, y = 18446744073709551615".toList, "q".toList]).2 ["# size".toList]
    _ _ _ ⟨["q".toList], by decide⟩ hfree hline
  have hbeyond : read ["x = 18446744073709551616".toList] =
      .error (.badSize .x "18446744073709551616") := by
    decide
  exact ⟨(hfits (by decide)).2, hbeyond,
    (read_header_number _).1 _ _ hbeyond (by decide)⟩

/-- A number that does not fit a word is refused as no number. -/
theorem read_number_beyond_words :
    Format.rle.read "x = 18446744073709551616, y = 1\no!" =
        .error (.badSize .x "18446744073709551616") ∧
      Numeral.IsNumeral "18446744073709551616".toList ∧
      Numeral.value "18446744073709551616".toList = maxWord + 1 := by
  decide

end LifeRom.Rle
