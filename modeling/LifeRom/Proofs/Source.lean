import LifeRom.Proofs.Format
import LifeRom.Proofs.Plaintext.Drawing
import LifeRom.Proofs.Refusal

/-! # Failures of sources

Only a run-length document holds a pattern that leaves the field, and no source fails for want of a
name.
-/

namespace LifeRom

namespace Pattern

variable {p : Pattern} {e : Fault}

theorem WellFormed.outsideField_of_layOut (h : p.WellFormed) (he : p.layOut = .error e) :
    ∃ row column, e = .outsideField row column := by
  obtain ⟨body, htokens, -⟩ := h
  rcases layOut_eq_error_iff.mp he with ⟨before, t, -, -, ht⟩ | ⟨hstop, -, -⟩
  · cases t with
    | dead n => cases ht
    | alive n =>
      rw [faultAt?, Option.ite_none_right_eq_some, Option.some.injEq] at ht
      exact ⟨_, _, ht.2.symm⟩
    | rowEnd | stop =>
      rw [faultAt?, Option.ite_none_right_eq_some, Option.some.injEq] at ht
      exact ⟨_, _, ht.2.symm⟩
  · exact absurd (by simp [htokens]) hstop

theorem centring?_eq (p : Pattern) : Margins.centring? p.width p.height = some p.margins :=
  if_pos ⟨p.width_le, p.height_le⟩

end Pattern

namespace Source

open Verilog

variable {settings : Settings} {source : Source} {failure : Failure} {p : Pattern} {e : Fault}

theorem ofGrid_identifierOf (name : String) (grid : Grid) :
    Lookup.ofGrid (identifierOf name) grid =
      .ok ⟨identifierOf name, grid, isIdentifier_identifierOf name⟩ :=
  Lookup.ofGrid_eq_ok_iff.mpr ⟨rfl, rfl⟩

theorem grid_eq_error_iff :
    source.grid = .error failure ↔
      (∃ e, source.format.read source.text = .error e ∧ failure = .reading source.name e) ∨
        ∃ p, source.format.read source.text = .ok p ∧
          ∃ e, p.layOut = .error e ∧ failure = .layout source.name e := by
  simp only [grid, bind_eq_error_iff, mapError_eq_error_iff, mapError_eq_ok_iff]

theorem lookup_eq_error_iff : source.lookup = .error failure ↔ source.grid = .error failure := by
  simp only [lookup, bind_eq_error_iff, mapError_eq_error_iff, ofGrid_identifierOf, reduceCtorEq,
    false_and, exists_false, and_false, or_false]

theorem emit_eq_error_iff :
    source.emit settings = .error failure ↔ source.grid = .error failure := by
  rw [emit, ← lookup_eq_error_iff]
  cases source.lookup with
  | error e => simp [Functor.map, Except.map]
  | ok l => simp [Functor.map, Except.map]

theorem layOut_of_read (h : source.format.read source.text = .ok p) (he : p.layOut = .error e) :
    source.format = .rle ∧ ∃ row column, e = .outsideField row column := by
  refine ⟨?_, (Format.wellFormed_of_read h).outsideField_of_layOut he⟩
  cases hformat : source.format with
  | rle => rfl
  | plaintext =>
    rw [hformat] at h
    obtain ⟨g, hg, -⟩ := Plaintext.layOut_of_read h
    cases he.symm.trans hg

/-- A source fails exactly if its document is refused, or if it is a run-length document whose pattern
leaves the field. -/
theorem emit_fails_only (settings : Settings) (source : Source) :
    (∀ failure, source.emit settings = .error failure ↔
      (∃ e, source.format.read source.text = .error e ∧ source.format.MayRefuse e ∧
        failure = .reading source.name e ∧
        failure.message = "failed to parse " ++ source.name ++ ": " ++ e.message) ∨
      (source.format = .rle ∧ ∃ p row column, source.format.read source.text = .ok p ∧
        p.layOut = .error (.outsideField row column) ∧
        failure = .layout source.name (.outsideField row column) ∧
        failure.message = "failed to lay out " ++ source.name ++ ": " ++
          (Fault.outsideField row column).message)) ∧
    (∀ p, source.format.read source.text = .ok p →
      Margins.centring? p.width p.height = some p.margins ∧
      (∀ e, p.layOut = .error e → ∃ row column, e = .outsideField row column) ∧
      (source.format = .plaintext → ∃ g, p.layOut = .ok g)) ∧
    ∀ grid, ∃ l, Lookup.ofGrid (identifierOf source.name) grid = .ok l := by
  refine ⟨fun failure => ?_, fun p hp => ⟨p.centring?_eq, fun e he => (layOut_of_read hp he).2, ?_⟩,
    fun grid => ⟨_, ofGrid_identifierOf source.name grid⟩⟩
  · rw [emit_eq_error_iff, grid_eq_error_iff]
    constructor
    · rintro (⟨e, he, rfl⟩ | ⟨p, hp, e, he, rfl⟩)
      · exact Or.inl ⟨e, he, Format.mayRefuse_of_readLines he, rfl, rfl⟩
      · obtain ⟨hformat, row, column, rfl⟩ := layOut_of_read hp he
        exact Or.inr ⟨hformat, p, row, column, hp, he, rfl, rfl⟩
    · rintro (⟨e, he, -, rfl, -⟩ | ⟨-, p, row, column, hp, he, rfl, -⟩)
      · exact Or.inl ⟨e, he, rfl⟩
      · exact Or.inr ⟨p, hp, _, he, rfl⟩
  · intro hformat
    cases hg : p.layOut with
    | ok g => exact ⟨g, rfl⟩
    | error e => cases hformat.symm.trans (layOut_of_read hp hg).1

/-- A run that goes past the right edge, in a source with a keyword for a name. -/
theorem emit_fails_only_overflow :
    let source : Source := ⟨"wire", .rle, "x = 1, y = 1\n40o!"⟩
    source.emit {} = .error (.layout "wire" (.outsideField 24 50)) ∧
      (∃ p, source.format.read source.text = .ok p ∧ p.layOut = .error (.outsideField 24 50)) ∧
      ∃ l, Lookup.ofGrid (identifierOf "wire") .blank = .ok l := by
  intro source
  have h : source.emit {} = .error (.layout "wire" (.outsideField 24 50)) := by decide
  obtain ⟨hfails, -, hname⟩ := emit_fails_only {} source
  refine ⟨h, ?_, hname .blank⟩
  rcases (hfails _).mp h with ⟨e, -, -, he, -⟩ | ⟨-, p, row, column, hp, hl, heq, -⟩
  · cases he
  · obtain ⟨rfl, rfl⟩ := Fault.outsideField.inj (Failure.layout.inj heq).2
    exact ⟨p, hp, hl⟩

end Source

end LifeRom
