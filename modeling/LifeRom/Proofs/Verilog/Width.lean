import Mathlib.Algebra.Order.Ring.Nat
import Mathlib.Order.Bounds.Basic
import LifeRom.Counting
import LifeRom.Proofs.Verilog.Composite

/-! # The width of the index

A number fits into as many bits as it has binary digits and into no fewer. A selector that is
written has a module and an index of at least one bit, so no bound is taken away from zero.
-/

namespace LifeRom.Verilog

open Text

namespace Selector

variable {n count width : Nat}

theorem bitLength_le_iff : bitLength n ≤ width ↔ n < 2 ^ width := by
  unfold bitLength
  split
  · next hn => simp [hn]
  · next hn => exact Nat.log2_lt hn

theorem toNat_clz_le {w : Nat} (word : BitVec w) : word.clz.toNat ≤ w := by
  have hle := BitVec.le_def.mp (BitVec.clz_le (x := word))
  rwa [BitVec.natCast_eq_ofNat, BitVec.toNat_ofNat, Nat.mod_eq_of_lt Nat.lt_two_pow_self] at hle

theorem bitLength_toNat {w : Nat} (word : BitVec w) :
    bitLength word.toNat = w - word.clz.toNat := by
  apply Nat.le_antisymm
  · exact bitLength_le_iff.mpr BitVec.toNat_lt_two_pow_sub_clz
  · by_contra! hlt
    have hne : word ≠ 0#w := by
      rintro rfl
      have hzeros : (0#w).clz = w := BitVec.clz_eq_iff_eq_zero.mpr rfl
      simp [hzeros] at hlt
    have hle : 2 ^ (w - 1 - word.clz.toNat) ≤ word.toNat :=
      BitVec.two_pow_sub_clz_le_toNat_of_ne_zero (by omega) hne
    have hgt : word.toNat < 2 ^ (w - 1 - word.clz.toNat) := bitLength_le_iff.mp (by omega)
    omega

theorem one_le_indexWidth (count : Nat) : 1 ≤ indexWidth count :=
  Nat.le_max_left _ _

theorem indexWidth_le_iff (h : 1 ≤ width) : indexWidth count ≤ width ↔ count ≤ 2 ^ width := by
  have hpos : 0 < 2 ^ width := Nat.two_pow_pos width
  rw [indexWidth, Nat.max_le, bitLength_le_iff, and_iff_right h]
  omega

theorem isLeast_indexWidth (count : Nat) :
    IsLeast {width | 1 ≤ width ∧ count ≤ 2 ^ width} (indexWidth count) := by
  constructor
  · exact ⟨one_le_indexWidth count, (indexWidth_le_iff (one_le_indexWidth count)).mp le_rfl⟩
  · rintro width ⟨hpos, hcount⟩
    exact (indexWidth_le_iff hpos).mpr hcount

theorem le_two_pow_iff : count ≤ 2 ^ width ↔ ∀ index < count, index < 2 ^ width := by
  constructor
  · intro h index hindex
    exact hindex.trans_le h
  · intro h
    by_contra! hlt
    exact absurd (h _ hlt) (Nat.lt_irrefl _)

theorem indexWidth_eq_leadingZeros (h : count ≤ maxWord) :
    indexWidth count = max 1 (64 - (BitVec.ofNat 64 (count - 1)).clz.toNat) := by
  have hword : (BitVec.ofNat 64 (count - 1)).toNat = count - 1 := by
    rw [BitVec.toNat_ofNat]
    apply Nat.mod_eq_of_lt
    unfold maxWord at h
    omega
  rw [indexWidth, ← bitLength_toNat, hword]

theorem getElem?_lines_index (s : Settings) (names : List String) :
    (lines s names)[0]? = some ("module " ++ s.selectorName ++ "(input wire[" ++
      toString (indexWidth names.length - 1) ++ ":0] index_in,") := by
  refine congrArg some (String.toList_inj.mp ?_)
  simp [input, Signal.index]

theorem getElem?_lines_outputs (s : Settings) (names : List String) :
    (lines s names)[4]? = some (s.indentation 1 ++ "logic alive[" ++
      toString (names.length - 1) ++ ":0];") := by
  refine congrArg some (String.toList_inj.mp ?_)
  simp [aliveArray]

theorem length_pos_of_compose {s : Settings} {modules : List Module} {text : String}
    (h : compose s modules = .ok text) : 1 ≤ modules.length := by
  obtain ⟨-, -, hne, -⟩ := compose_eq_ok_iff.mp h
  exact List.length_pos_iff.mpr hne

/-- The index of a selector has the least number of bits, and at least one, that tells the positions
of all modules apart, and no bound that the selector declares is below zero. -/
theorem index_width_exact :
    (∀ count, count ≤ maxWord →
      indexWidth count = max 1 (64 - (BitVec.ofNat 64 (count - 1)).clz.toNat) ∧
      (BitVec.ofNat 64 (count - 1)).clz.toNat ≤ 64 ∧
      IsLeast {width | 1 ≤ width ∧ count ≤ 2 ^ width} (indexWidth count) ∧
      IsLeast {width | 1 ≤ width ∧ ∀ index < count, index < 2 ^ width} (indexWidth count)) ∧
    ∀ s modules text, compose s modules = .ok text →
      ∃ selector : List String,
        text = unlines (modules.map (·.text)) ++ unlines (s.guarded selector) ∧
        ∃ msb last, msb + 1 = indexWidth modules.length ∧ last + 1 = modules.length ∧
          selector[0]? = some ("module " ++ s.selectorName ++ "(input wire[" ++ toString msb ++
            ":0] index_in,") ∧
          selector[4]? = some (s.indentation 1 ++ "logic alive[" ++ toString last ++ ":0];") := by
  constructor
  · intro count hword
    refine ⟨indexWidth_eq_leadingZeros hword, toNat_clz_le _, isLeast_indexWidth count, ?_⟩
    simp only [← le_two_pow_iff]
    exact isLeast_indexWidth count
  · intro s modules text h
    obtain ⟨-, -, -, htext⟩ := compose_eq_ok_iff.mp h
    have hindex := getElem?_lines_index s (modules.map (·.name))
    have houtputs := getElem?_lines_outputs s (modules.map (·.name))
    rw [List.length_map] at hindex houtputs
    exact ⟨_, htext, _, _, Nat.sub_add_cancel (one_le_indexWidth _),
      Nat.sub_add_cancel (length_pos_of_compose h), hindex, houtputs⟩

/-- A power of two that fits the index just so, the number behind it, and three modules. -/
theorem index_width_exact_powers :
    IsLeast {width | 1 ≤ width ∧ 2 ^ 63 ≤ 2 ^ width} 63 ∧
      IsLeast {width | 1 ≤ width ∧ 2 ^ 63 + 1 ≤ 2 ^ width} 64 ∧
      ∃ text selector, compose {} [⟨"a", "A"⟩, ⟨"b", ""⟩, ⟨"a", "C"⟩] = .ok text ∧
        text = "A\n\nC\n" ++ unlines (Settings.guarded {} selector) ∧
        selector[0]? = some "module pattern_selector(input wire[1:0] index_in," ∧
        selector[4]? = some "    logic alive[2:0];" := by
  obtain ⟨hwidth, hcompose⟩ := index_width_exact
  have hsmaller : indexWidth (2 ^ 63) = 63 := by decide
  have hlarger : indexWidth (2 ^ 63 + 1) = 64 := by decide
  obtain ⟨-, -, hleast, -⟩ := hwidth (2 ^ 63) (by decide)
  obtain ⟨-, -, hleast', -⟩ := hwidth (2 ^ 63 + 1) (by decide)
  obtain ⟨text, h⟩ : ∃ text, compose {} [⟨"a", "A"⟩, ⟨"b", ""⟩, ⟨"a", "C"⟩] = .ok text :=
    ⟨_, compose_eq_ok_iff.mpr ⟨by decide +kernel, by decide +kernel, by decide, rfl⟩⟩
  obtain ⟨selector, htext, msb, last, hmsb, hlast, hindex, houtputs⟩ := hcompose _ _ _ h
  obtain rfl : msb = 1 := Nat.succ_injective hmsb
  obtain rfl : last = 2 := Nat.succ_injective hlast
  have htexts : unlines ["A", "", "C"] = "A\n\nC\n" := by decide
  refine ⟨hsmaller ▸ hleast, hlarger ▸ hleast', text, selector, h, htexts ▸ htext,
    hindex.trans ?_, houtputs.trans ?_⟩
  · decide
  · decide

end Selector

end LifeRom.Verilog
