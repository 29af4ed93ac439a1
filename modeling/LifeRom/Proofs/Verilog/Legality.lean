import Mathlib.Order.Basic
import LifeRom.Proofs.Verilog.Naming
import LifeRom.Verilog.Lookup

/-! # Legal names are kept

Each step of the making of an identifier leaves one as it is.
-/

namespace LifeRom.Verilog

variable {name : String} {c : Char}

theorem ascends_keywords : Bisection.Ascends keywords := by
  apply List.IsChain.pairwise
  decide +kernel

theorem isKeyword_iff : isKeyword name = true ↔ name ∈ keywords :=
  Bisection.search_iff ascends_keywords

theorem isDigit_eq_false_of_isIdentifierStart (h : isIdentifierStart c = true) :
    c.isDigit = false := by
  unfold isIdentifierStart Char.isAlpha Char.isUpper Char.isLower at h
  unfold Char.isDigit
  simp only [Bool.or_eq_true, decide_eq_true_eq, beq_iff_eq] at h
  rcases h with h | rfl
  · grind
  · rfl

theorem ite_isAlphanum_eq_self (h : isIdentifierPart c = true) :
    (if c.isAlphanum then c else '_') = c := by
  unfold isIdentifierPart at h
  split
  · rfl
  · next halphanum =>
    have hc : c = '_' := by simpa [halphanum] using h
    exact hc.symm

theorem wordOf_eq_self (h : IsWord name) : wordOf name = name := by
  obtain ⟨c, cs, heq, hstart, hparts⟩ := h
  have hall : ∀ d ∈ c :: cs, isIdentifierPart d = true :=
    List.forall_mem_cons.mpr ⟨isIdentifierPart_of_isIdentifierStart hstart, hparts⟩
  have hmap : (c :: cs).map (fun d => if d.isAlphanum then d else '_') = c :: cs :=
    (List.map_congr_left fun d hd => ite_isAlphanum_eq_self (hall d hd)).trans (List.map_id' _)
  have hname : String.ofList (c :: cs) = name := by
    rw [← heq, String.ofList_toList]
  unfold wordOf
  simp only [heq, hmap, isDigit_eq_false_of_isIdentifierStart hstart, hname, Bool.false_eq_true,
    if_false]

theorem identifierOf_eq_self_iff : identifierOf name = name ↔ isIdentifier name = true := by
  constructor
  · intro h
    exact h ▸ isIdentifier_identifierOf name
  · intro h
    obtain ⟨hword, hkeyword⟩ := isIdentifier_iff.mp h
    simp [identifierOf, wordOf_eq_self hword, hkeyword]

/-- Every text is made into a legal name, which is not reserved and serves for any grid. A text that
is a legal name stays as it is, and no other does. -/
theorem identifierOf_keeps_legal (stem : String) :
    isIdentifier (identifierOf stem) = true ∧
      IsWord (identifierOf stem) ∧ identifierOf stem ∉ keywords ∧
      (identifierOf stem = stem ↔ isIdentifier stem = true) ∧
      identifierOf (identifierOf stem) = identifierOf stem ∧
      ∀ grid, ∃ l, Lookup.ofGrid (identifierOf stem) grid = .ok l ∧
        l.name = identifierOf stem ∧ l.grid = grid := by
  have hlegal := isIdentifier_identifierOf stem
  obtain ⟨hword, hkeyword⟩ := isIdentifier_iff.mp hlegal
  refine ⟨hlegal, hword, ?_, identifierOf_eq_self_iff, identifierOf_eq_self_iff.mpr hlegal,
    fun grid => ?_⟩
  · intro hmem
    cases hkeyword.symm.trans (isKeyword_iff.mpr hmem)
  · exact ⟨⟨_, grid, hlegal⟩, Lookup.ofGrid_eq_ok_iff.mpr ⟨rfl, rfl⟩, rfl, rfl⟩

/-- Lengthened at its front, lengthened at its end, and left alone. -/
example : ["2c/3 spaceship", "wire", "wire_"].map identifierOf =
    ["p_2c_3_spaceship", "wire_", "wire_"] := by
  decide +kernel

end LifeRom.Verilog
