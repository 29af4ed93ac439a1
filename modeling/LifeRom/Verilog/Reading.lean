import LifeRom.Field
import LifeRom.Text.Numeral

/-! # Reading modules

The first arm of a table that matches decides on its value.
-/

namespace LifeRom.Verilog

/-- The rest of a text that starts with `start`. -/
def after? (start cs : List Char) : Option (List Char) :=
  if start.isPrefixOf cs then some (cs.drop start.length) else none

inductive Arm
  | cell (c : Cell) (value : Bool)
  | default (value : Bool)
  deriving DecidableEq, Repr

namespace Arm

def ofValue? : List Char → Option Bool
  | ['0', ';'] => some false
  | ['1', ';'] => some true
  | _ => none

def cell? (line : List Char) : Option (Cell × List Char) := do
  let rest ← after? "\x7b6'd".toList line
  let (x, rest) ← Text.Numeral.take? rest
  let rest ← after? ", 6'd".toList rest
  let (y, rest) ← Text.Numeral.take? rest
  let rest ← after? "\x7d: alive_out = ".toList rest
  return (⟨x, y⟩, rest)

/-- The arm on a line; leading spaces are free. -/
def ofLine? (line : List Char) : Option Arm :=
  let line := line.dropWhile (· == ' ')
  match after? "default: alive_out = ".toList line, cell? line with
  | some rest, _ => (ofValue? rest).map .default
  | none, some (c, rest) => (ofValue? rest).map (.cell c)
  | none, none => none

/-- A literal keeps as many bits as its input has. -/
def Matches (x y : Nat) : Arm → Prop
  | cell c _ => c.x % coordRange = x ∧ c.y % coordRange = y
  | default _ => True

instance (x y : Nat) : DecidablePred (Matches x y)
  | cell .. => inferInstanceAs (Decidable (_ ∧ _))
  | default _ => inferInstanceAs (Decidable True)

def value : Arm → Bool
  | cell _ v | default v => v

def evaluate (arms : List Arm) (x y : Nat) : Option Bool :=
  (arms.find? fun a => Matches x y a).map value

end Arm

/-- A module as it stands in a text. -/
structure Section where
  name : List Char
  /-- The lines between the one that names the module and the one that ends it. -/
  body : List (List Char)
  deriving DecidableEq, Repr

namespace Section

def name? (line : List Char) : Option (List Char) :=
  (after? "module ".toList line).map (·.takeWhile (· != '('))

def IsEnd (line : List Char) : Prop := line = "endmodule".toList

instance (line : List Char) : Decidable (IsEnd line) :=
  inferInstanceAs (Decidable (_ = _))

def ofLines : List (List Char) → List Section
  | [] => []
  | l :: ls =>
    match name? l with
    | none => ofLines ls
    | some name =>
      ⟨name, ls.takeWhile (¬ IsEnd ·)⟩ :: ofLines ((ls.dropWhile (¬ IsEnd ·)).drop 1)
termination_by ls => ls.length
decreasing_by
  · simp
  · have := (List.dropWhile_sublist (p := fun l => decide ¬ IsEnd l) (l := ls)).length_le
    simp only [List.length_drop, List.length_cons]
    omega

def arms (s : Section) : List Arm :=
  s.body.filterMap Arm.ofLine?

end Section

end LifeRom.Verilog
