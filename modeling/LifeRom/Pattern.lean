import LifeRom.Counting
import LifeRom.Fault

/-! # Patterns -/

namespace LifeRom

inductive Token
  | dead (length : Nat)
  | alive (length : Nat)
  /-- Closes the row and opens the next. -/
  | rowEnd
  /-- Closes the row and ends the pattern. -/
  | stop
  deriving DecidableEq, Repr

structure Pattern where
  width : Nat
  height : Nat
  tokens : List Token
  width_le : width ≤ side
  height_le : height ≤ side
  deriving DecidableEq, Repr

namespace Pattern

def ofTokens (width height : Nat) (tokens : List Token) : Except Fault Pattern :=
  if h : width ≤ side ∧ height ≤ side then .ok ⟨width, height, tokens, h.1, h.2⟩
  else .error (.tooLarge width height)

theorem ofTokens_eq_ok_iff {width height : Nat} {tokens : List Token} {p : Pattern} :
    ofTokens width height tokens = .ok p ↔
      p.width = width ∧ p.height = height ∧ p.tokens = tokens := by
  unfold ofTokens
  constructor
  · intro h
    split at h
    · cases h; exact ⟨rfl, rfl, rfl⟩
    · cases h
  · rintro ⟨rfl, rfl, rfl⟩
    simp [p.width_le, p.height_le]

theorem ofTokens_eq_error_iff {width height : Nat} {tokens : List Token} {e : Fault} :
    ofTokens width height tokens = .error e ↔
      (side < width ∨ side < height) ∧ e = .tooLarge width height := by
  unfold ofTokens
  split <;> rename_i h
  · simp; omega
  · constructor
    · intro he; cases he; exact ⟨by omega, rfl⟩
    · rintro ⟨_, rfl⟩; rfl

/-- A run as a reader produces it: not empty, with a length that fits a word. -/
def IsRun : Token → Prop
  | .dead n | .alive n => 1 ≤ n ∧ n ≤ maxWord
  | .rowEnd => True
  | .stop => False

instance : DecidablePred IsRun
  | .dead _ | .alive _ => inferInstanceAs (Decidable (_ ∧ _))
  | .rowEnd => inferInstanceAs (Decidable True)
  | .stop => inferInstanceAs (Decidable False)

/-- Runs and row ends, closed by the one `stop`. -/
def WellFormed (p : Pattern) : Prop :=
  ∃ body, p.tokens = body ++ [.stop] ∧ ∀ t ∈ body, IsRun t

end Pattern

end LifeRom
