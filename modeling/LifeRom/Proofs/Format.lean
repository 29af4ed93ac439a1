import LifeRom.Format
import LifeRom.Proofs.Plaintext.Rows
import LifeRom.Proofs.Rle.Written

/-! # Patterns that documents hold

Run-length documents can say all that plaintext documents say.
-/

namespace LifeRom.Format

variable {p : Pattern}

theorem read_rle (text : String) : rle.read text = Rle.read (Text.lines text.toList) := rfl

theorem read_plaintext (text : String) :
    plaintext.read text = Plaintext.read (Text.lines text.toList) := rfl

theorem wellFormed_of_read {format : Format} {text : String} (h : format.read text = .ok p) :
    p.WellFormed := by
  cases format with
  | rle => exact Rle.wellFormed_of_read (read_rle text ▸ h)
  | plaintext => exact Plaintext.wellFormed_of_read (read_plaintext text ▸ h)

theorem read_toRle_of_wellFormed (h : p.WellFormed) : rle.read p.toRle = .ok p := by
  rw [read_rle]
  exact Rle.read_lines_toRle h

/-- Reading undoes writing on well-formed patterns, and documents hold no others. -/
theorem read_toRle (p : Pattern) :
    (p.WellFormed → rle.read p.toRle = .ok p) ∧
      (∀ (format : Format) (text : String), format.read text = .ok p → p.WellFormed) ∧
      ∀ text : String, plaintext.read text = .ok p → ∃ document, rle.read document = .ok p :=
  ⟨read_toRle_of_wellFormed, fun _ _ => wellFormed_of_read,
    fun _ h => ⟨p.toRle, read_toRle_of_wellFormed (wellFormed_of_read h)⟩⟩

/-- The longest dead run that a word counts, and a document of ragged rows. -/
theorem read_toRle_longest_run :
    let p : Pattern :=
      ⟨50, 3, [.dead maxWord, .alive 1, .rowEnd, .rowEnd, .alive 7, .stop], by decide, by decide⟩
    let q : Pattern :=
      ⟨4, 3, [.alive 1, .dead 1, .alive 1, .rowEnd, .rowEnd, .dead 1, .alive 2, .stop], by decide,
        by decide⟩
    p.WellFormed ∧ rle.read "x = 50, y = 3\n18446744073709551615b1o$$7o!" = .ok p ∧
      plaintext.read "!dots\nO.*.\n\n.OO." = .ok q ∧ q.WellFormed ∧
      ∃ document, rle.read document = .ok q := by
  intro p q
  have hp : p.WellFormed := ⟨[.dead maxWord, .alive 1, .rowEnd, .rowEnd, .alive 7], rfl, by decide⟩
  have htext : p.toRle = "x = 50, y = 3\n18446744073709551615b1o$$7o!" := by decide
  have hq : plaintext.read "!dots\nO.*.\n\n.OO." = .ok q := by decide
  have hread : rle.read p.toRle = .ok p := (read_toRle p).1 hp
  rw [htext] at hread
  exact ⟨hp, hread, hq, (read_toRle q).2.1 plaintext _ hq, (read_toRle q).2.2 _ hq⟩

end LifeRom.Format
