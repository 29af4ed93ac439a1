import Mathlib.Order.Basic
import LifeRom.Verilog.Identifier

/-! # Characters of identifiers -/

namespace LifeRom.Verilog

variable {name : String} {c : Char}

theorem isIdentifier_iff :
    isIdentifier name = true ↔
      (∃ c cs, name.toList = c :: cs ∧ isIdentifierStart c = true ∧
        ∀ d ∈ cs, isIdentifierPart d = true) ∧ isKeyword name = false := by
  unfold isIdentifier
  cases name.toList with
  | nil => simp
  | cons c cs => simp [and_assoc]

theorem isIdentifierPart_of_isIdentifierStart (h : isIdentifierStart c = true) :
    isIdentifierPart c = true := by
  simp only [isIdentifierStart, isIdentifierPart, Char.isAlphanum, Bool.or_eq_true] at h ⊢
  rcases h with h | h
  · exact Or.inl (Or.inl h)
  · exact Or.inr h

theorem isIdentifierPart_of_mem (h : isIdentifier name = true) (hc : c ∈ name.toList) :
    isIdentifierPart c = true := by
  obtain ⟨⟨d, ds, heq, hstart, hparts⟩, -⟩ := isIdentifier_iff.mp h
  rw [heq] at hc
  rcases List.mem_cons.mp hc with rfl | hc
  · exact isIdentifierPart_of_isIdentifierStart hstart
  · exact hparts c hc

theorem not_mem_of_isIdentifier (h : isIdentifier name = true) (hc : isIdentifierPart c = false) :
    c ∉ name.toList := by
  intro hm
  rw [isIdentifierPart_of_mem h hm] at hc
  cases hc

theorem head?_of_isIdentifier (h : isIdentifier name = true) :
    ∃ c, name.toList.head? = some c ∧ isIdentifierStart c = true := by
  obtain ⟨⟨c, cs, heq, hstart, -⟩, -⟩ := isIdentifier_iff.mp h
  exact ⟨c, by rw [heq]; rfl, hstart⟩

theorem isKeyword_module : isKeyword "module" = true := by
  decide +kernel

theorem ne_module_of_isIdentifier (h : isIdentifier name = true) : name ≠ "module" := by
  rintro rfl
  have := (isIdentifier_iff.mp h).2
  rw [isKeyword_module] at this
  cases this

end LifeRom.Verilog
