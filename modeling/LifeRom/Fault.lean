import LifeRom.Field
import LifeRom.Text.Quoted

/-! # Faults -/

namespace LifeRom

/-- A place in a text. Lines and the characters of a line are counted from 1. -/
structure Position where
  line : Nat
  column : Nat
  deriving DecidableEq, Repr

inductive Fault
  | unexpectedSymbol (symbol : Char) (position : Position)
  | tooLarge (width height : Nat)
  | unterminated
  /-- A run or a row that leaves the field, with the first cell outside. -/
  | outsideField (row column : Nat)
  /-- A declared size that is no number or fills more than a word. -/
  | badSize (axis : Axis) (value : String)
  | sizeMissing
  /-- A module name that is no identifier or already in use. -/
  | illegalName (name : String)
  | noModules
  deriving DecidableEq, Repr

namespace Fault

open Text

def message : Fault → String
  | unexpectedSymbol symbol position =>
    "unexpected symbol " ++ quoteChar symbol ++ " at line " ++ toString position.line ++
      ", column " ++ toString position.column
  | tooLarge width height =>
    "pattern is " ++ toString width ++ "x" ++ toString height ++ ", larger than the field"
  | unterminated => "pattern data ends without the '!' terminator"
  | outsideField row column =>
    "run writes outside the field at row " ++ toString row ++ ", column " ++ toString column
  | badSize axis value =>
    "header value " ++ axis.name ++ " = " ++ quoteString value ++ " is not a non-negative integer"
  | sizeMissing => "pattern has no `x = .., y = ..` header"
  | illegalName name => quoteString name ++ " is not a legal module name"
  | noModules => "no patterns to select between"

end Fault

variable {ε ε' α β : Type}

theorem mapError_eq_ok_iff {x : Except ε α} {f : ε → ε'} {a : α} :
    x.mapError f = .ok a ↔ x = .ok a := by
  cases x with
  | error e => exact ⟨nofun, nofun⟩
  | ok b => constructor <;> rintro ⟨⟩ <;> rfl

theorem bind_eq_ok_iff {x : Except ε α} {f : α → Except ε β} {b : β} :
    (x >>= f) = .ok b ↔ ∃ a, x = .ok a ∧ f a = .ok b := by
  cases x with
  | error e => exact ⟨nofun, nofun⟩
  | ok a => exact ⟨fun h => ⟨a, rfl, h⟩, fun ⟨_, rfl, h⟩ => h⟩

theorem mapError_eq_error_iff {x : Except ε α} {f : ε → ε'} {e : ε'} :
    x.mapError f = .error e ↔ ∃ e', x = .error e' ∧ e = f e' := by
  cases x with
  | error e₀ =>
    constructor
    · rintro ⟨⟩
      exact ⟨e₀, rfl, rfl⟩
    · rintro ⟨_, ⟨⟩, rfl⟩
      rfl
  | ok a => exact ⟨nofun, nofun⟩

theorem bind_eq_error_iff {x : Except ε α} {f : α → Except ε β} {e : ε} :
    (x >>= f) = .error e ↔ x = .error e ∨ ∃ a, x = .ok a ∧ f a = .error e := by
  cases x with
  | error e' => simp [bind, Except.bind]
  | ok a => simp [bind, Except.bind]

end LifeRom
