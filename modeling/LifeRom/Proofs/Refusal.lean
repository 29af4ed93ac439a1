import LifeRom.Format
import LifeRom.Proofs.Plaintext.Refusal
import LifeRom.Proofs.Rle.Refusal

/-! # First faults of documents -/

namespace LifeRom.Format

/-- The faults that documents of a format can be refused for. -/
def MayRefuse (format : Format) : Fault → Prop
  | .unexpectedSymbol .. | .tooLarge .. => True
  | .unterminated | .badSize .. | .sizeMissing => format = rle
  | .outsideField .. | .illegalName .. | .noModules => False

theorem mayRefuse_of_readLines {format : Format} {lines : List (List Char)} {e : Fault}
    (h : format.readLines lines = .error e) : format.MayRefuse e := by
  cases format with
  | rle =>
    rcases Rle.read_eq_error_iff.mp h with ⟨_, _, -, -, he⟩ | ⟨-, ⟨-, rfl⟩ | ⟨-, -, rfl⟩⟩
    · rcases Rle.lineFault?_cases he with ⟨_, _, rfl, -⟩ | ⟨_, _, rfl⟩ | ⟨_, _, rfl, -⟩
      · exact rfl
      · trivial
      · trivial
    · exact rfl
    · exact rfl
  | plaintext =>
    rcases Plaintext.read_eq_error_iff.mp h with ⟨_, _, -, -, he⟩ | ⟨-, -, rfl⟩
    · rw [Plaintext.lineFault?, Option.ite_none_left_eq_some] at he
      obtain ⟨_, _, rfl, -⟩ := Fault.exists_of_stray? he.2
      trivial
    · trivial

/-- Reading fails with the first fault of a document, and with none other; a character that is named
stands at the position that is named with it. -/
theorem read_names_first_fault (lines : List (List Char)) (e : Fault) :
    (rle.readLines lines = .error e ↔ Rle.Refused lines e) ∧
      (plaintext.readLines lines = .error e ↔ Plaintext.Refused lines e) ∧
      ∀ (format : Format) c position,
        format.readLines lines = .error (.unexpectedSymbol c position) →
          position.symbolIn? lines = some c := by
  refine ⟨Rle.read_eq_error_iff, Plaintext.read_eq_error_iff, fun format c position h => ?_⟩
  cases format with
  | rle => exact Rle.symbolIn?_of_read h
  | plaintext => exact Plaintext.symbolIn?_of_read h

/-- A value that is no number before a size that is too large, and both before a symbol; and a symbol
below lines that are skipped. -/
theorem read_names_first_fault_below_comment :
    let sizes := ["x = 51, y = 4x, x = z".toList, "q!".toList]
    let symbols := ["#x = 51".toList, "".toList, "x = 1, y = 1".toList, "2é!q".toList]
    Rle.Refused sizes (.badSize .y "4x") ∧ Rle.Refused symbols (.unexpectedSymbol 'é' ⟨4, 2⟩) ∧
      Position.symbolIn? symbols ⟨4, 2⟩ = some 'é' ∧
      Plaintext.Refused symbols (.unexpectedSymbol '#' ⟨1, 1⟩) := by
  intro sizes symbols
  have hsizes : rle.readLines sizes = .error (.badSize .y "4x") := by decide
  have hrle : rle.readLines symbols = .error (.unexpectedSymbol 'é' ⟨4, 2⟩) := by decide
  have hplaintext : plaintext.readLines symbols = .error (.unexpectedSymbol '#' ⟨1, 1⟩) := by
    decide
  exact ⟨(read_names_first_fault sizes _).1.mp hsizes,
    (read_names_first_fault symbols _).1.mp hrle,
    (read_names_first_fault symbols (.unexpectedSymbol 'é' ⟨4, 2⟩)).2.2 rle 'é' ⟨4, 2⟩ hrle,
    (read_names_first_fault symbols _).2.1.mp hplaintext⟩

end LifeRom.Format
