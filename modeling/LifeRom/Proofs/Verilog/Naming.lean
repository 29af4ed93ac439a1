import Mathlib.Data.List.DropRight
import LifeRom.Proofs.Bisection
import LifeRom.Proofs.Verilog.Identifier

/-! # Identifiers from texts

No keyword ends in an underscore, with or without digits behind it, so lengthening a keyword by one
frees it.
-/

namespace LifeRom.Verilog

/-- The shape of an identifier, keywords included. -/
def IsWord (name : String) : Prop :=
  ∃ c cs, name.toList = c :: cs ∧ isIdentifierStart c = true ∧ ∀ d ∈ cs, isIdentifierPart d = true

theorem mem_keywords {name : String} (h : isKeyword name = true) : name ∈ keywords :=
  Bisection.mem_of_search h

/-- Before its last digits no keyword ends in an underscore. -/
theorem getLast?_rdropWhile_keywords : ∀ word ∈ keywords.toList,
    (word.toList.rdropWhile Char.isDigit).getLast? ≠ some '_' := by
  decide +kernel

theorem not_mem_keywords_of_getLast? {name : String}
    (h : (name.toList.rdropWhile Char.isDigit).getLast? = some '_') : name ∉ keywords :=
  fun hmem => getLast?_rdropWhile_keywords name (Array.mem_toList_iff.mpr hmem) h

theorem isKeyword_eq_false_of_not_mem {name : String} (h : name ∉ keywords) :
    isKeyword name = false :=
  Bool.eq_false_iff.mpr fun hk => h (mem_keywords hk)

theorem isKeyword_append_underscore (word : String) : isKeyword (word ++ "_") = false := by
  apply isKeyword_eq_false_of_not_mem
  apply not_mem_keywords_of_getLast?
  rw [String.toList_append, show "_".toList = ['_'] from rfl,
    List.rdropWhile_concat_neg _ _ _ (by decide), List.getLast?_concat]

theorem IsWord.append {word suffix : String} (h : IsWord word)
    (hs : suffix.toList.all isIdentifierPart = true) : IsWord (word ++ suffix) := by
  obtain ⟨c, cs, heq, hstart, hparts⟩ := h
  rw [List.all_eq_true] at hs
  refine ⟨c, cs ++ suffix.toList, ?_, hstart, List.forall_mem_append.mpr ⟨hparts, hs⟩⟩
  rw [String.toList_append, heq, List.cons_append]

theorem isIdentifierPart_ite (c : Char) :
    isIdentifierPart (if c.isAlphanum then c else '_') = true := by
  split
  · next h => simp [isIdentifierPart, h]
  · rfl

theorem isWord_wordOf (stem : String) : IsWord (wordOf stem) := by
  have hparts : ∀ d ∈ stem.toList.map fun c => if c.isAlphanum then c else '_',
      isIdentifierPart d = true := by
    intro d hd
    obtain ⟨c, -, rfl⟩ := List.mem_map.mp hd
    exact isIdentifierPart_ite c
  unfold wordOf
  split
  · exact ⟨'p', "attern".toList, by decide, by decide, List.all_eq_true.mp (by decide)⟩
  · next c cs heq =>
    rw [heq, List.forall_mem_cons] at hparts
    split
    · refine ⟨'p', '_' :: c :: cs, by simp, by decide, ?_⟩
      simpa [hparts] using ⟨by decide, hparts.2⟩
    · next hdigit =>
      refine ⟨c, cs, by simp, ?_, hparts.2⟩
      have := hparts.1
      simp only [isIdentifierPart, Char.isAlphanum, hdigit, Bool.or_false] at this
      exact this

theorem isIdentifier_of_isWord {name : String} (h : IsWord name) (hk : isKeyword name = false) :
    isIdentifier name = true :=
  isIdentifier_iff.mpr ⟨h, hk⟩

theorem isIdentifier_identifierOf (stem : String) : isIdentifier (identifierOf stem) = true := by
  have hword := isWord_wordOf stem
  rw [identifierOf]
  split
  · exact isIdentifier_of_isWord (hword.append (by decide)) (isKeyword_append_underscore _)
  · next h => exact isIdentifier_of_isWord hword (by simpa using h)

end LifeRom.Verilog
